import TwoWay.Proofs.Ports
import TwoWay.Proofs.Sending
import TwoWay.Settings.Draft

/-!
# What choices amount to

**Theorem (`ofChoices_by_kind`).** Choices amount to all their ports one after another, and to the
last of every other kind (`Draft.gathered`). They make settings if the ports make a table and the
scale fits; else the ports have the first say in the error.
-/

namespace TwoWay

/-! ## Kinds of choices -/

namespace Choice

def isPorts : Choice → Bool
  | .port _ | .ports _ => true
  | .localAddress _ | .clockOffset _ | .errorEstimate .. => false

def added : Choice → List UInt16
  | .port p => [p]
  | .ports ps => ps
  | .localAddress _ | .clockOffset _ | .errorEstimate .. => []

def address? : Choice → Option Ipv4Address
  | .localAddress address => some address
  | _ => none

def offset? : Choice → Option UInt64
  | .clockOffset seconds => some seconds
  | _ => none

def estimate? : Choice → Option (Bool × UInt8 × UInt8)
  | .errorEstimate synchronized scale multiplier => some (synchronized, scale, multiplier)
  | _ => none

/-- What the last choice of a kind says. -/
def last {α : Type} (kind : Choice → Option α) (choices : List Choice) : Option α :=
  (choices.filterMap kind).getLast?

theorem last_concat {α : Type} (kind : Choice → Option α) (choices : List Choice) (c : Choice) :
    last kind (choices ++ [c]) = (kind c).or (last kind choices) := by
  rw [last, List.filterMap_append, List.getLast?_append]
  cases h : kind c <;> simp [h, last]

theorem last_filter {α : Type} {kind : Choice → Option α} {keep : Choice → Bool}
    (h : ∀ c, keep c = false → kind c = none) (choices : List Choice) :
    last kind (choices.filter keep) = last kind choices := by
  have hkind : (fun c => if keep c = true then kind c else none) = kind := by
    funext c
    cases hkeep : keep c with
    | true => exact if_pos rfl
    | false => exact (h c hkeep).symm
  rw [last, List.filterMap_filter, hkind, last]

end Choice

/-! ## Drafts -/

namespace Draft

open Choice

def lastEstimate (choices : List Choice) : Bool × UInt8 × UInt8 :=
  (last estimate? choices).getD (false, 0, 1)

/-- The draft of choices, kind by kind. -/
def gathered (choices : List Choice) : Draft where
  ports := choices.flatMap added
  localAddress := last address? choices
  clockOffset := (last offset? choices).getD 0
  synchronized := (lastEstimate choices).1
  scale := (lastEstimate choices).2.1
  multiplier := (lastEstimate choices).2.2

theorem choose_gathered (choices : List Choice) (c : Choice) :
    (gathered choices).choose c = gathered (choices ++ [c]) := by
  simp only [gathered, lastEstimate, List.flatMap_append, List.flatMap_singleton, last_concat]
  cases c <;> simp [choose, added, address?, offset?, estimate?]

theorem foldl_choose (before choices : List Choice) :
    choices.foldl choose (gathered before) = gathered (before ++ choices) := by
  induction choices generalizing before with
  | nil => rw [List.append_nil, List.foldl_nil]
  | cons c rest ih => rw [List.foldl_cons, choose_gathered, ih, List.append_assoc]; rfl

/-- The same ports may be divided otherwise among choices, or moved past the others. -/
theorem gathered_congr {choices choices' : List Choice}
    (hports : choices'.flatMap added = choices.flatMap added)
    (hothers : choices'.filter (!·.isPorts) = choices.filter (!·.isPorts)) :
    gathered choices' = gathered choices := by
  have hlast {α : Type} (kind : Choice → Option α) (h : ∀ c, (!c.isPorts) = false → kind c = none) :
      last kind choices' = last kind choices := by
    rw [← last_filter h choices', hothers, last_filter h]
  rw [gathered, gathered, lastEstimate, lastEstimate, hports, hlast address?, hlast offset?,
    hlast estimate?]
  -- Choices of ports are of none of the three other kinds.
  all_goals
    intro c hc
    cases c with
    | port | ports => rfl
    | localAddress | clockOffset | errorEstimate => cases hc

/-! ## Two checks -/

theorem settle_eq_ok_iff (d : Draft) (s : Settings) :
    d.settle = .ok s ↔
      PortTable.ofList d.ports = .ok s.ports ∧
        ErrorEstimate.ofParts d.synchronized d.scale d.multiplier = .ok s.errorEstimate ∧
        s.localAddress = d.localAddress ∧ s.clockOffset = d.clockOffset := by
  obtain ⟨ports, address, offset, estimate⟩ := s
  rw [settle]
  cases PortTable.ofList d.ports with
  | error e => simp [bind, Except.bind]
  | ok t =>
    cases ErrorEstimate.ofParts d.synchronized d.scale d.multiplier with
    | error e => simp [bind, Except.bind]
    | ok e =>
      simp only [bind, Except.bind, pure, Except.pure, Except.ok.injEq, Settings.mk.injEq]
      constructor
      · rintro ⟨rfl, rfl, rfl, rfl⟩
        exact ⟨rfl, rfl, rfl, rfl⟩
      · rintro ⟨rfl, rfl, rfl, rfl⟩
        exact ⟨rfl, rfl, rfl, rfl⟩

theorem settle_eq_error_iff (d : Draft) (e : SettingsError) :
    d.settle = .error e ↔
      PortTable.ofList d.ports = .error e ∨
        (∃ t, PortTable.ofList d.ports = .ok t) ∧
          ErrorEstimate.ofParts d.synchronized d.scale d.multiplier = .error e := by
  rw [settle]
  cases PortTable.ofList d.ports with
  | error e' => simp [bind, Except.bind]
  | ok t =>
    cases ErrorEstimate.ofParts d.synchronized d.scale d.multiplier with
    | error e' => simp [bind, Except.bind]
    | ok estimate => simp [bind, Except.bind, pure, Except.pure]

end Draft

/-! ## Settings -/

namespace Settings

/-- Choices are taken into the draft that they amount to. -/
theorem ofChoices_eq (choices : List Choice) :
    ofChoices choices = (Draft.gathered choices).settle :=
  congrArg Draft.settle (Draft.foldl_choose [] choices)

/-- **Choices by kind.** Settings have the table of all ports, the last address, the last offset and
the last estimate, with one for a multiplier of zero; no reply under them claims PTP timestamps or a
perfect clock. Ports that make no table give the error, even if the scale does not fit either.
Neither the division of the ports nor the order of the kinds makes a difference. -/
theorem ofChoices_by_kind (choices : List Choice) :
    let d := Draft.gathered choices
    ((∃ s, ofChoices choices = .ok s) ↔
      (∃ t, PortTable.ofList d.ports = .ok t) ∧ d.scale ≤ 63) ∧
    (∀ e, ofChoices choices = .error e ↔
      PortTable.ofList d.ports = .error e ∨
        (∃ t, PortTable.ofList d.ports = .ok t) ∧ 63 < d.scale ∧ e = .scaleOutOfRange d.scale) ∧
    (∀ s, ofChoices choices = .ok s →
      PortTable.ofList d.ports = .ok s.ports ∧ s.localAddress = d.localAddress ∧
        s.clockOffset = d.clockOffset ∧ s.errorEstimate.synchronized = d.synchronized ∧
        s.errorEstimate.ptp = false ∧ s.errorEstimate.scale = d.scale ∧
        s.errorEstimate.multiplier.toNat = max 1 d.multiplier.toNat ∧ s.SendsValid) ∧
    ∀ choices', choices'.flatMap Choice.added = choices.flatMap Choice.added →
      choices'.filter (!·.isPorts) = choices.filter (!·.isPorts) →
        ofChoices choices' = ofChoices choices := by
  intro d
  have hsettle : ofChoices choices = d.settle := ofChoices_eq choices
  refine ⟨?_, fun e => ?_, fun s hs => ?_, fun choices' hports hothers => ?_⟩
  · rw [hsettle]
    constructor
    · rintro ⟨s, hs⟩
      obtain ⟨htable, hestimate, -⟩ := (d.settle_eq_ok_iff s).1 hs
      exact ⟨⟨s.ports, htable⟩, ((ErrorEstimate.ofParts_eq_ok_iff _ _ _ _).1 hestimate).1⟩
    · rintro ⟨⟨t, ht⟩, hscale⟩
      obtain ⟨e, he, -⟩ := ErrorEstimate.ofParts_of_le d.synchronized d.scale d.multiplier hscale
      exact ⟨⟨t, d.localAddress, d.clockOffset, e⟩, (d.settle_eq_ok_iff _).2 ⟨ht, he, rfl, rfl⟩⟩
  · rw [hsettle, d.settle_eq_error_iff, ErrorEstimate.ofParts_eq_error_iff]
  · rw [hsettle, d.settle_eq_ok_iff] at hs
    obtain ⟨htable, hestimate, haddress, hoffset⟩ := hs
    obtain ⟨-, hsync, hptp, hscale, hmultiplier⟩ :=
      (ErrorEstimate.ofParts_eq_ok_iff _ _ _ _).1 hestimate
    exact ⟨htable, haddress, hoffset, hsync, hptp, hscale, hmultiplier,
      sendsValid_of_valid (ErrorEstimate.valid_of_ofParts hestimate)⟩
  · rw [ofChoices_eq, ofChoices_eq, Draft.gathered_congr hports hothers]

/-- The same choices in two orders, and choices with one and with both faults. -/
theorem ofChoices_by_kind_samples :
    let address : Ipv4Address := #v[10, 0, 0, 2]
    let choices : List Choice := [.port 5000, .errorEstimate true 3 7, .ports [5001, 862, 5000],
      .localAddress address, .clockOffset 37, .errorEstimate false 63 0, .clockOffset 38]
    let regrouped : List Choice := [.ports [5000, 5001], .errorEstimate true 3 7, .ports [],
      .localAddress address, .clockOffset 37, .errorEstimate false 63 0, .port 862,
      .clockOffset 38, .port 5000]
    let clock : SteppingClock := ⟨1700000000000000000, 1000⟩
    (∃ s, ofChoices choices = .ok s ∧ ofChoices regrouped = .ok s ∧ s.ports.extra = [5000, 5001] ∧
      s.localAddress = some address ∧ s.clockOffset = 38 ∧ s.errorEstimate.scale = 63 ∧
      s.errorEstimate.multiplier.toNat = 1 ∧
      (Reflector.handle ⟨s, .ntp⟩ clock Frame.sample).disposition = .redirect 7 ∧
      ∃ reply, Session.replyIn (Reflector.handle ⟨s, .ntp⟩ clock Frame.sample).frame.octets =
        .ok reply ∧ reply.errorEstimate.Valid) ∧
    ofChoices [.errorEstimate true 64 1, .ports [1, 0]] = .error .zeroPort ∧
    ofChoices [.errorEstimate true 64 1, .port 1] = .error (.scaleOutOfRange 64) := by
  intro address choices regrouped clock
  obtain ⟨hmakes, -, hsettings, hregrouped⟩ := ofChoices_by_kind choices
  obtain ⟨s, hs⟩ := hmakes.2 ⟨⟨_, rfl⟩, by decide⟩
  obtain ⟨htable, haddress, hoffset, -, -, hscale, hmultiplier, hsends⟩ := hsettings s hs
  have hextra : s.ports.extra = [5000, 5001] :=
    (PortTable.holds_of_ofList htable).extra.trans (by decide)
  have hredirect : (Reflector.handle ⟨s, .ntp⟩ clock Frame.sample).disposition = .redirect 7 := by
    cases hs
    rw [Reflector.handle_of_isProbe _ clock (by decide)]
    rfl
  refine ⟨⟨s, hs, (hregrouped regrouped rfl rfl).trans hs, hextra, haddress, hoffset, hscale,
    hmultiplier, hredirect, hsends.frame .ntp clock Frame.sample 7 hredirect⟩, ?_, ?_⟩
  · exact ((ofChoices_by_kind _).2.1 _).2 (.inl rfl)
  · exact ((ofChoices_by_kind _).2.1 _).2 (.inr ⟨⟨_, rfl⟩, by decide, rfl⟩)

/-- Without choices there are the default settings. -/
example : ofChoices [] = .ok default := rfl

end Settings

end TwoWay
