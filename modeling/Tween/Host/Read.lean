import Tween.Token.Invisible
import Tween.Declaration
import Tween.Host.Basic
import Tween.Host.Entries
import Tween.Host.Markers

/-!
# Reading a host

`Host.read` makes a host of the tokens of an item. Invisible groups are dissolved first. An item is
attributes, a visibility, a keyword and whatever follows. Only after `struct` does the rest matter:
a name, and then generic parameters, which are not looked into, or one of three bodies. Any other
item is named by its first identifier.

The entries of a field list are read one after the other, and the first bad one is reported: for its
form, or else for its markers.
-/

namespace Tween

/-- Why an item is no host. -/
inductive HostError where
  /-- No keyword follows the attributes and the visibility. -/
  | noKeyword
  /-- No name follows `struct`. -/
  | noName
  /-- What follows the name of a struct is no body. -/
  | badBody (name : Ident)
  /-- An entry of the struct's field list is no field. -/
  | badField (name : Ident)
  /-- A field is marked in a way that is not understood. -/
  | badMarker (cause : MarkerError)

namespace HostError

/-- The message says what could not be read. -/
def report (config : Config) : HostError → Diagnostic
  | noKeyword => .notAnItem
  | noName => .internal s!"could not parse struct: {Diagnostic.unreadable}" .callSite
  | badBody name =>
    .internal s!"could not parse the fields of `{name.text}`: {Diagnostic.unreadable}" name.span
  | badField name =>
    .internal s!"could not parse a field of `{name.text}`: {Diagnostic.unreadable}" name.span
  | badMarker cause => cause.report config

end HostError

/-- The two kinds of field list. -/
inductive FieldStyle where
  | named
  | positional

/-- The content of an entry as a name and a type: `name : type`, or a type alone. The type may be
empty. -/
def FieldStyle.split? : FieldStyle → TokenStream → Option (Option Ident × TokenStream)
  | named, .ident name :: .punct mark :: ty =>
    if mark.char = ':' then some (some name, ty) else none
  | named, _ => none
  | positional, ty => some (none, ty)

/-- What follows the name of a struct. -/
inductive StructBody where
  | generic
  | unit
  | fields (style : FieldStyle) (contents : TokenStream)

/-- Generic parameters and anything after them, `;`, `{ contents }` or `( contents ) ;`. -/
def StructBody.read? : TokenStream → Option StructBody
  | .punct mark :: rest =>
    if mark.char = '<' then some generic
    else if mark.char = ';' ∧ rest = [] then some unit
    else none
  | [.group .brace _ contents] => some (fields .named contents)
  | [.group .parenthesis _ contents, .punct mark] =>
    if mark.char = ';' then some (fields .positional contents) else none
  | _ => none

/-- An entry of the field list of the struct called `host`. -/
def Field.read (config : Config) (host : Ident) (style : FieldStyle) (entry : TokenStream) :
    Except HostError Field :=
  let declaration := Declaration.read entry
  match style.split? declaration.content with
  | none => .error (.badField host)
  | some (name, ty) =>
    match Attribute.allMarkers config declaration.attributes with
    | .error cause => .error (.badMarker cause)
    | .ok markers => .ok ⟨name, some ty, markers⟩

/-- The fields of the struct called `host`. -/
def StructBody.readFields (config : Config) (host : Ident) :
    StructBody → Except HostError (List Field)
  | generic | unit => .ok []
  | fields style contents => (TokenStream.entries contents).mapM (Field.read config host style)

namespace Host

/-- The host of an item that is no struct: its name is the first identifier after the keyword, or
the keyword where there is none. -/
def ofOther (declaration : Declaration) (keyword : Ident) (rest : TokenStream) : Host where
  kind := .other keyword.text
  name := (TokenStream.idents rest).head?.getD keyword
  visibility := declaration.visibility.tokens
  isGeneric := false
  traits := declaration.attributes.flatMap Attribute.derivedTraits
  fields := []

/-- The host of a struct with the given name, body and fields. -/
def ofStruct (declaration : Declaration) (name : Ident) (body : StructBody) (fields : List Field) :
    Host where
  kind := .struct
  name
  visibility := declaration.visibility.tokens
  isGeneric := match body with
    | .generic => true
    | _ => false
  traits := declaration.attributes.flatMap Attribute.derivedTraits
  fields

/-- The host that an item without invisible groups declares. -/
def ofDeclaration (config : Config) (declaration : Declaration) : Except HostError Host :=
  match declaration.content with
  | .ident keyword :: rest =>
    if keyword.text = "struct" then
      match rest with
      | .ident name :: rest =>
        match StructBody.read? rest with
        | none => .error (.badBody name)
        | some body => (body.readFields config name).map (ofStruct declaration name body)
      | _ => .error .noName
    else
      .ok (ofOther declaration keyword rest)
  | _ => .error .noKeyword

/-- The host that an item declares. -/
def read (config : Config) (item : TokenStream) : Except HostError Host :=
  ofDeclaration config (Declaration.read (TokenStream.dissolve item))

end Host

end Tween
