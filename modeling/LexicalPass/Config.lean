/-!
Configuration of a pass.  A configuration is built from settings, of which each
may be left open; a preview cannot have a negative length.
-/

set_option autoImplicit false

namespace LexicalPass

structure Config where
  /-- Emit a token for every line feed outside a string literal. -/
  emitEndOfLine : Bool := false
  /-- How much of an unclosed string literal is shown. -/
  previewLength : Nat := 15
  /-- The extension of the files that the command line accepts. -/
  sourceExtension : String := ".solace"
deriving DecidableEq, Repr, Inhabited

structure Settings where
  emitEndOfLine : Option Bool := none
  previewLength : Option Int := none
  sourceExtension : Option String := none
deriving DecidableEq, Repr

inductive ConfigError where
  | negativePreviewLength
deriving DecidableEq, Repr

def ConfigError.message : ConfigError → String
  | negativePreviewLength => "preview_length must be non-negative"

def Settings.build (s : Settings) : Except ConfigError Config :=
  let standard : Config := {}
  let previewLength := s.previewLength.getD standard.previewLength
  if previewLength < 0 then .error .negativePreviewLength
  else .ok {
    emitEndOfLine := s.emitEndOfLine.getD standard.emitEndOfLine
    previewLength := previewLength.toNat
    sourceExtension := s.sourceExtension.getD standard.sourceExtension }

/-- Work done under an active configuration, which it may change. -/
abbrev Configured (α : Type) := Config → α × Config

/-- Work done under a configuration of its own.  The one that was active before
is active again afterwards, whatever the work has made of its own. -/
def Configured.within {α : Type} (config : Config) (work : Configured α) : Configured α :=
  fun active => ((work config).1, active)

@[simp] theorem Configured.within_snd {α : Type} (config active : Config)
    (work : Configured α) : (within config work active).2 = active := rfl

end LexicalPass
