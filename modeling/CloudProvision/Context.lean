import CloudProvision.Settings

/-!
# The context of a provider

What the operations of a provider share: the settings, which only the first configuration decides,
and the signal to stop. Every operation takes a token of its own. The signal cancels every token,
those taken later included, and a token can be cancelled without touching the others.
-/

namespace CloudProvision

/-- The context of a provider. -/
structure Context where
  /-- The settings, once the provider is configured. -/
  configured : Option Settings
  /-- Whether the provider has been told to stop. -/
  stopped : Bool
  /-- For each token that was taken, whether it was cancelled on its own. -/
  tokens : List Bool
  deriving DecidableEq

/-- A token, by its position among those that were taken. -/
abbrev Token := Nat

namespace Context

/-- A context that is not configured. -/
def new : Context := ⟨none, false, []⟩

/-- A context that is configured already. -/
def withSettings (settings : Settings) : Context := ⟨some settings, false, []⟩

/-- Record settings, and whether they are the first ones. Later settings change nothing. -/
def configure (c : Context) (settings : Settings) : Bool × Context :=
  match c.configured with
  | none => (true, { c with configured := some settings })
  | some _ => (false, c)

/-- The settings in effect. -/
def settings (c : Context) : Settings :=
  c.configured.getD .default

/-- Take a token. -/
def takeToken (c : Context) : Token × Context :=
  (c.tokens.length, { c with tokens := c.tokens ++ [false] })

/-- Cancel one token. -/
def cancel (c : Context) (token : Token) : Context :=
  { c with tokens := c.tokens.set token true }

/-- Tell every operation to stop. -/
def stop (c : Context) : Context :=
  { c with stopped := true }

/-- Whether a token is cancelled. -/
def isCancelled (c : Context) (token : Token) : Bool :=
  c.stopped || c.tokens.getD token false

end Context

end CloudProvision
