import Tween.Token.Basic

/-!
# Hosts

The item an attribute is placed on, reduced to what the pass looks at. A host may be anything; it is
up to validation to refuse what cannot be animated.
-/

namespace Tween

/-- Struct or not, in which case the keyword that introduces the item is kept. -/
inductive ItemKind where
  | struct
  | other (keyword : String)
  deriving DecidableEq

/-- One entry of a field list. Fields of a tuple struct have no name. -/
structure Field where
  name : Option Ident
  ty : Option TokenStream
  /-- The words listed in the markers on the field. -/
  markers : List Ident

/-- The declaration of a host. -/
structure Host where
  kind : ItemKind
  /-- The name of the item, which diagnostics about the host as a whole point at. -/
  name : Ident
  /-- The visibility, passed on to what is generated. -/
  visibility : TokenStream
  /-- Generic parameters follow the name. -/
  isGeneric : Bool
  /-- The derived traits, each by the last segment of its path. -/
  traits : List String
  /-- The fields in the order of their declaration. -/
  fields : List Field

end Tween
