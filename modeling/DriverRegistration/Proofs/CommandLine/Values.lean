import DriverRegistration.CommandLine
import DriverRegistration.Proofs.Duration

/-!
# Values of options

Every option has a kind of values (`Flag.kind`), and `Kind.Spells` says which texts spell which
value of a kind: a path and any other text spell themselves, a duration is spelled by the texts that
are read as it, a number by its decimal digits, also with zeros before them, and a log format by its
word.  Digits are read as their number (`bounded_of_decimal`), and any text that spells a value
passes the check of its option (`check_of_spells`).
-/

namespace DriverRegistration

namespace Text

/-! ## Numbers -/

/-- Decimal digits that write a number. -/
def Decimal (n : Nat) (cs : List Char) : Prop :=
  cs ≠ [] ∧ (∀ c ∈ cs, c.isDigit = true) ∧ Duration.number cs = n

instance (n : Nat) (cs : List Char) : Decidable (Decimal n cs) :=
  decidable_of_iff (cs ≠ [] ∧ cs.all Char.isDigit = true ∧ Duration.number cs = n)
    (by simp only [Decimal, List.all_eq_true])

theorem le_foldl_digits (n : Nat) (cs : List Char) :
    n ≤ cs.foldl (fun n c => n * 10 + (c.toNat - 48)) n := by
  induction cs generalizing n with
  | nil => exact Nat.le_refl n
  | cons c cs ih =>
    have := ih (n * 10 + (c.toNat - 48))
    rw [List.foldl_cons]
    omega

/-- Digits are read as their number, as long as it stays within the limit. -/
theorem digits_eq_ok {limit n : Nat} {beyond : IntegerFault} {cs : List Char}
    (hdigits : ∀ c ∈ cs, c.isDigit = true)
    (hlimit : cs.foldl (fun n c => n * 10 + (c.toNat - 48)) n ≤ limit) :
    digits limit beyond n cs = .ok (cs.foldl (fun n c => n * 10 + (c.toNat - 48)) n) := by
  induction cs generalizing n with
  | nil => rfl
  | cons c cs ih =>
    obtain ⟨hc, hcs⟩ := List.forall_mem_cons.1 hdigits
    rw [List.foldl_cons] at hlimit ⊢
    rw [digits, if_pos hc, if_pos ((le_foldl_digits _ cs).trans hlimit)]
    exact ih hcs hlimit

theorem signed_of_decimal {n : Nat} {cs : List Char} (h : Decimal n cs)
    (hn : n ≤ 9223372036854775807) : signed cs = .ok n := by
  obtain ⟨hne, hdigits, hnumber⟩ := h
  have hread : (digits 9223372036854775807 .tooLarge 0 cs).map Int.ofNat = .ok (n : Int) := by
    have hvalue : cs.foldl (fun n c => n * 10 + (c.toNat - 48)) 0 = n :=
      (Duration.digitsValue_eq_number cs).trans hnumber
    rw [digits_eq_ok hdigits (hvalue.trans_le hn), hvalue]
    rfl
  have hsign {c : Char} (hc : c.isDigit = false) : c ∉ cs := fun hmem =>
    absurd (hdigits c hmem) (by simp [hc])
  unfold signed
  split
  · exact absurd rfl hne
  · exact absurd List.mem_cons_self (hsign rfl)
  · exact absurd List.mem_cons_self (hsign rfl)
  · exact absurd List.mem_cons_self (hsign rfl)
  · exact absurd List.mem_cons_self (hsign rfl)
  · exact hread

end Text

namespace CommandLine

theorem bounded_of_decimal {n limit : Nat} {text : String} (h : Text.Decimal n text.toList)
    (hn : n ≤ limit) (hlimit : limit ≤ 9223372036854775807) : bounded limit text = .ok n := by
  have hrange : (0 ≤ (n : Int) && decide ((n : Int) ≤ limit)) = true := by
    simpa using hn
  simp only [bounded, Text.signed_of_decimal h (hn.trans hlimit), hrange, if_true,
    Int.toNat_natCast]

/-! ## Kinds of values -/

/-- The kinds of values. -/
inductive Kind where
  /-- A path, which is not empty. -/
  | path
  | text
  | duration
  /-- A number up to a limit. -/
  | count (limit : Nat)
  | format

/-- The values of a kind. -/
def Kind.Value : Kind → Type
  | path => { s : String // s ≠ "" }
  | text => String
  | duration => Duration
  | count limit => { n : Nat // n ≤ limit }
  | format => LogFormat

/-- Which texts spell a value. -/
def Kind.Spells : (k : Kind) → k.Value → String → Prop
  | path, value, s => s = value.1
  | text, value, s => s = value
  | duration, d, s => Duration.parse s = .ok d
  | count _, n, s => Text.Decimal n.1 s.toList
  | format, .text, s => s = "text"
  | format, .json, s => s = "json"

/-- The kind of values that an option takes. -/
def Flag.kind : Flag → Kind
  | kubeconfig | registrationDir => .path
  | csiAddress | registrationPath | nodeName => .text
  | connectionTimeout | syncInterval | initialBackoff | maxBackoff => .duration
  | retryAttempts => .count attemptsLimit
  | verbosity => .count verbosityLimit
  | logFormat => .format

theorem check_of_spells {flag : Flag} {value : flag.kind.Value} {text : String}
    (h : flag.kind.Spells value text) : check flag text = .ok () := by
  cases flag with
  | kubeconfig | registrationDir =>
    obtain ⟨path, hne⟩ := value
    obtain rfl : text = path := h
    exact if_neg hne
  | csiAddress | registrationPath | nodeName => rfl
  | connectionTimeout | syncInterval | initialBackoff | maxBackoff =>
    replace h : Duration.parse text = .ok value := h
    simp only [check, h]
  | retryAttempts | verbosity =>
    have hread := bounded_of_decimal h value.2 (by decide)
    simp only [check, check.number, hread]
  | logFormat =>
    cases value with
    | text =>
      obtain rfl : text = "text" := h
      rfl
    | json =>
      obtain rfl : text = "json" := h
      rfl

end CommandLine

end DriverRegistration
