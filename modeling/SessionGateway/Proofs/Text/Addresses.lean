import SessionGateway.Text.SocketAddress
import Mathlib.Data.List.TakeDrop

/-! What an address looks like. The digits of a port contain no colon, so whatever the host is, the last colon
is the one before the port. -/
namespace SessionGateway.Text

/-- Decimal digits, perhaps after a plus sign, of a number up to a limit. -/
def IsNumeral (limit : Nat) (cs : List Char) : Prop :=
  ∃ digits, (cs = digits ∨ cs = '+' :: digits) ∧ digits ≠ [] ∧ (∀ c ∈ digits, c.isDigit) ∧
    Nat.ofDigitChars 10 digits 0 ≤ limit

/-- A host that is not empty, a colon and a 16-bit number. -/
def IsAddress (s : String) : Prop :=
  ∃ host port, s = host ++ ":" ++ port ∧ host ≠ "" ∧ IsNumeral 65535 port.toList

variable {limit : Nat} {cs digits : List Char} {s host port : String}

/-! ### Numerals -/

theorem digit?_ten (c : Char) : digit? 10 c = if c.isDigit then some (c.toNat - 48) else none := by
  have zero : '0'.toNat = 48 := rfl
  have nine : '9'.toNat = 57 := rfl
  simp only [digit?, Char.isDigit_iff_toNat, zero, nine]
  split
  · rename_i decimal
    have below : c.toNat - 48 < 10 := by omega
    simp [below]
  · split
    · simp
    · split <;> simp

theorem isDigit_ten (c : Char) : isDigit 10 c = c.isDigit := by
  rw [isDigit, digit?_ten]
  cases c.isDigit <;> rfl

theorem ofDigits_ten (decimal : ∀ c ∈ cs, c.isDigit) : ofDigits 10 cs = Nat.ofDigitChars 10 cs 0 := by
  unfold ofDigits
  generalize 0 = n
  induction cs generalizing n with
  | nil => rfl
  | cons c later ih =>
    have first : c.isDigit := decimal c List.mem_cons_self
    rw [List.foldl_cons, Nat.ofDigitChars_cons, digit?_ten, if_pos first, Nat.mul_comm]
    exact ih (fun c member => decimal c (List.mem_cons_of_mem _ member)) _

theorem all_digits_iff : cs.all (isDigit 10) ↔ ∀ c ∈ cs, c.isDigit := by
  simp [isDigit_ten]

theorem plus_not_digit (decimal : ∀ c ∈ digits, c.isDigit) (later : List Char) : digits ≠ '+' :: later := by
  rintro rfl
  have plus : '+'.isDigit := decimal '+' List.mem_cons_self
  cases plus

theorem unsigned?_isSome_iff : (unsigned? limit cs).isSome ↔ IsNumeral limit cs := by
  have reads (run : List Char) :
      (if run ≠ [] ∧ run.all (isDigit 10) then
        if ofDigits 10 run ≤ limit then some (ofDigits 10 run) else none else none).isSome ↔
      run ≠ [] ∧ (∀ c ∈ run, c.isDigit) ∧ Nat.ofDigitChars 10 run 0 ≤ limit := by
    split
    · next numeral =>
      have decimal := all_digits_iff.mp numeral.2
      rw [ofDigits_ten decimal]
      simp only [ne_eq, numeral.1, not_false_eq_true, true_and, and_iff_right decimal]
      split <;> simp_all
    · next other =>
      refine ⟨nofun, ?_⟩
      rintro ⟨digits, decimal, _⟩
      exact absurd ⟨digits, all_digits_iff.mpr decimal⟩ other
  -- The first character decides which of the two ways to write a numeral applies, as no digit is a plus sign.
  unfold unsigned?
  dsimp only
  split
  · next run =>
    rw [reads]
    constructor
    · intro numeral
      exact ⟨run, Or.inr rfl, numeral⟩
    · rintro ⟨digits, unsigned | signed, numeral⟩
      · exact absurd unsigned.symm (plus_not_digit numeral.2.1 run)
      · rw [List.cons.inj signed |>.2]
        exact numeral
  · next unsigned =>
    rw [reads]
    constructor
    · intro numeral
      exact ⟨cs, Or.inl rfl, numeral⟩
    · rintro ⟨digits, rfl | rfl, numeral⟩
      · exact numeral
      · exact absurd rfl (unsigned digits)

theorem toDigits_isNumeral {n : Nat} (within : n ≤ limit) : IsNumeral limit (Nat.toDigits 10 n) := by
  refine ⟨Nat.toDigits 10 n, Or.inl rfl, Nat.toDigits_ne_nil, ?_, ?_⟩
  · intro c member
    exact Nat.isDigit_of_mem_toDigits (by decide) (by decide) member
  · rw [Nat.ofDigitChars_ten_toDigits]
    exact within

theorem IsNumeral.no_colon (numeral : IsNumeral limit cs) : ':' ∉ cs := by
  obtain ⟨digits, written, _, decimal, _⟩ := numeral
  have none : ':' ∉ digits := by
    intro member
    cases decimal ':' member
  rcases written with rfl | rfl
  · exact none
  · simpa using none

/-! ### Addresses -/

theorem span_colon_iff {after before : List Char} :
    cs.span (· ≠ ':') = (after, ':' :: before) ↔ cs = after ++ ':' :: before ∧ ':' ∉ after := by
  rw [List.span_eq_takeWhile_dropWhile]
  constructor
  · intro spans
    obtain ⟨taken, left⟩ := Prod.mk.inj spans
    constructor
    · rw [← taken, ← left, List.takeWhile_append_dropWhile]
    · intro member
      rw [← taken] at member
      simpa using List.all_eq_true.mp List.all_takeWhile ':' member
  · rintro ⟨rfl, fresh⟩
    have others : ∀ c ∈ after, decide (c ≠ ':') := by
      intro c member
      rw [decide_eq_true_iff]
      rintro rfl
      exact fresh member
    rw [List.takeWhile_append_of_pos others, List.dropWhile_append_of_pos others]
    simp

theorem splitLastColon?_eq_some_iff :
    splitLastColon? s = some (host, port) ↔ s = host ++ ":" ++ port ∧ ':' ∉ port.toList := by
  have turned : s = host ++ ":" ++ port ↔
      s.toList.reverse = port.toList.reverse ++ ':' :: host.toList.reverse := by
    rw [← String.toList_inj, ← List.reverse_inj]
    simp
  rw [turned, ← List.mem_reverse, ← span_colon_iff]
  unfold splitLastColon?
  constructor
  · intro found
    rcases spans : s.toList.reverse.span (· ≠ ':') with ⟨after, rest⟩
    rw [spans] at found
    dsimp only at found
    split at found
    · next before =>
      obtain ⟨rfl, rfl⟩ := Prod.mk.inj (Option.some.inj found)
      simp
    · cases found
  · intro spans
    rw [spans]
    simp

theorem isHostPort_iff : isHostPort s ↔ IsAddress s := by
  unfold isHostPort
  constructor
  · intro passes
    split at passes
    · next host port divided =>
      obtain ⟨rfl, _⟩ := splitLastColon?_eq_some_iff.mp divided
      simp only [Bool.and_eq_true, decide_eq_true_eq] at passes
      exact ⟨host, port, rfl, passes.1, unsigned?_isSome_iff.mp passes.2⟩
    · cases passes
  · rintro ⟨host, port, rfl, named, numeral⟩
    have divided : splitLastColon? (host ++ ":" ++ port) = some (host, port) :=
      splitLastColon?_eq_some_iff.mpr ⟨rfl, numeral.no_colon⟩
    have number : (port? port).isSome := unsigned?_isSome_iff.mpr numeral
    rw [divided]
    simp [named, number]

example : isHostPort "::1:+0080" = true := by decide

end SessionGateway.Text
