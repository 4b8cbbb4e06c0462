/-!
# Causes of failure

Each layer has its own causes, each with one wording, and a `Failure` is a cause of any layer.
-/

namespace TwoWay

/-- An access that needs more of a region than there is. -/
structure Truncation where
  needed : Nat
  available : Nat
deriving DecidableEq

/-- Why a frame is not a probe. -/
inductive Mismatch
  | etherType (value : UInt16)
  /-- The header is not of version 4, or has options. -/
  | ipv4Shape (octet : UInt8)
  | fragment
  | protocol (number : UInt8)
  /-- Neither port is accepted. -/
  | port (source destination : UInt16)
  /-- The packet is addressed to somebody else. -/
  | destination
deriving DecidableEq

inductive Refusal
  | truncated (t : Truncation)
  | notApplicable (m : Mismatch)
deriving DecidableEq

inductive SettingsError
  | tooManyPorts (count max : Nat)
  | zeroPort
  | scaleOutOfRange (scale : UInt8)
deriving DecidableEq

/-- A failure of any layer; a failure of the system beneath comes with its own text. -/
inductive Failure
  | frame (cause : Refusal)
  | settings (cause : SettingsError)
  | io (text : String)
deriving DecidableEq

/-! ## Wording -/

def Truncation.message (t : Truncation) : String :=
  s!"frame truncated: need {t.needed} bytes, have {t.available}"

def Mismatch.message : Mismatch → String
  | .etherType value => s!"EtherType({value.toNat})"
  | .ipv4Shape octet => s!"Ipv4Shape({octet.toNat})"
  | .fragment => "Fragment"
  | .protocol number => s!"Protocol({number.toNat})"
  | .port src dst => s!"Port \x7b source: {src.toNat}, dest: {dst.toNat} \x7d"
  | .destination => "Destination"

def Refusal.message : Refusal → String
  | .truncated t => t.message
  | .notApplicable m => s!"not applicable: {m.message}"

def SettingsError.message : SettingsError → String
  | .tooManyPorts count max => s!"too many ports: {count} given, at most {max} allowed"
  | .zeroPort => "port 0 is not a valid STAMP port"
  | .scaleOutOfRange scale => s!"error estimate scale {scale.toNat} exceeds 63"

def Failure.message : Failure → String
  | .frame cause => s!"frame error: {cause.message}"
  | .settings cause => s!"configuration error: {cause.message}"
  | .io text => s!"i/o error: {text}"

end TwoWay
