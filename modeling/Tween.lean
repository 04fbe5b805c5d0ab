import Tween.Accessor
import Tween.Attribute.Basic
import Tween.Attribute.Removal
import Tween.Component
import Tween.Config.Arguments
import Tween.Config.Basic
import Tween.Declaration
import Tween.Diagnostic
import Tween.Emission
import Tween.Host.Basic
import Tween.Host.Entries
import Tween.Host.Helpers
import Tween.Host.Markers
import Tween.Host.Read
import Tween.Identifier
import Tween.Motion.Arithmetic
import Tween.Motion.Components
import Tween.Motion.Host
import Tween.Motion.Run
import Tween.Motion.Samples
import Tween.Motion.Scalar
import Tween.Shape
import Tween.Text.Quoted
import Tween.Token.Basic
import Tween.Token.Code
import Tween.Token.Commas
import Tween.Token.Compact
import Tween.Token.Expect
import Tween.Token.Invisible
import Tween.Token.Render
import Tween.Unicode.Hidden
import Tween.Unicode.HiddenRanges
import Tween.Unicode.Identifier
import Tween.Unicode.IdentifierRanges
import Tween.Unicode.Ranges
import Tween.Validation
import Tween.Vector.Companion
import Tween.Vector.Fragments
import Tween.Proofs.Attribute.Forms
import Tween.Proofs.Config.Arguments
import Tween.Proofs.Config.Settings
import Tween.Proofs.Emission.Ignored
import Tween.Proofs.Emission.Totality
import Tween.Proofs.Host.Completeness
import Tween.Proofs.Host.Entries
import Tween.Proofs.Host.Faults
import Tween.Proofs.Host.Read
import Tween.Proofs.Host.Unmarked
import Tween.Proofs.Host.Written
import Tween.Proofs.Pointwise
import Tween.Proofs.Token.CommaList
import Tween.Proofs.Token.Everywhere
import Tween.Proofs.Validation
import Tween.Proofs.Vector.Fragments
import Tween.Proofs.Emission.Floats
import Tween.Proofs.Token.Hidden
import Tween.Proofs.Token.Reading
import Tween.Proofs.Vector.Layout
import Tween.Proofs.Verdict
import Tween.Proofs.Accessor
import Tween.Proofs.Advice
import Tween.Proofs.Emission.Agreement
import Tween.Proofs.Shape
import Tween.Proofs.Motion.Frame
import Tween.Proofs.Motion.Samples
import Tween.Proofs.Attribute.Removal
import Tween.Proofs.Host.Clauses
import Tween.Proofs.Narrowing
import Tween.Proofs.Token.Legible
import Tween.Proofs.Token.Identity
import Tween.Proofs.Token.Render
import Tween.Proofs.Token.Dissolved
import Tween.Proofs.Token.Expect
import Tween.Proofs.Config.Captured
import Tween.Proofs.Text.Quoted
import Tween.Proofs.Diagnostic
import Tween.Proofs.Host.Spread
import Tween.Proofs.Token.Lexemes
