import TwoWay.Settings.Basic

/-!
# Drafts of settings

Settings are put together from choices in any order. Ports add up; of all other choices the last of
its kind counts. The draft is checked when it is settled, the ports first.
-/

namespace TwoWay

inductive Choice
  | port (port : UInt16)
  | ports (ports : List UInt16)
  | localAddress (address : Ipv4Address)
  | clockOffset (seconds : UInt64)
  | errorEstimate (synchronized : Bool) (scale multiplier : UInt8)

structure Draft where
  ports : List UInt16
  localAddress : Option Ipv4Address
  clockOffset : UInt64
  synchronized : Bool
  scale : UInt8
  multiplier : UInt8

namespace Draft

def blank : Draft := ⟨[], none, 0, false, 0, 1⟩

/-- Take a choice into a draft. -/
def choose (d : Draft) : Choice → Draft
  | .port port => { d with ports := d.ports ++ [port] }
  | .ports ports => { d with ports := d.ports ++ ports }
  | .localAddress address => { d with localAddress := some address }
  | .clockOffset seconds => { d with clockOffset := seconds }
  | .errorEstimate synchronized scale multiplier => { d with synchronized, scale, multiplier }

/-- Check a draft and make settings of it. -/
def settle (d : Draft) : Except SettingsError Settings := do
  let ports ← PortTable.ofList d.ports
  let errorEstimate ← ErrorEstimate.ofParts d.synchronized d.scale d.multiplier
  return ⟨ports, d.localAddress, d.clockOffset, errorEstimate⟩

end Draft

/-- The settings that choices amount to. -/
def Settings.ofChoices (choices : List Choice) : Except SettingsError Settings :=
  (choices.foldl Draft.choose Draft.blank).settle

end TwoWay
