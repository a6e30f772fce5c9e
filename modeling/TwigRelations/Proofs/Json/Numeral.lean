import TwigRelations.Json.Token
import TwigRelations.Json.Value

/-!
# Numbers are read back

The digits that a number is written in are read as that number, wherever they end.
-/

namespace TwigRelations.Json

variable {cs rest : List Char} {m n : Nat} {negative : Bool}

/-- Whether a text behind the digits of a number is no more of that number. -/
def EndsNumber : List Char → Prop
  | [] => True
  | c :: _ => c.isDigit = false ∧ c ≠ '.' ∧ c ≠ 'e' ∧ c ≠ 'E'

/-- Further digits make no number smaller. -/
theorem le_ofDigitChars (m : Nat) (cs : List Char) : m ≤ Nat.ofDigitChars 10 cs m := by
  induction cs generalizing m with
  | nil => exact Nat.le_refl m
  | cons c cs ih =>
    rw [Nat.ofDigitChars_cons]
    exact Nat.le_trans (by omega) (ih _)

/-- All digits are taken of a number that stays within 64 bits. -/
theorem takeDigits_of_le (h : Nat.ofDigitChars 10 cs m ≤ maxNatural) :
    takeDigits m cs = (Nat.ofDigitChars 10 cs m, cs.length, 0) := by
  induction cs generalizing m with
  | nil => rfl
  | cons c cs ih =>
    rw [Nat.ofDigitChars_cons, Nat.mul_comm] at h ⊢
    rw [takeDigits, ih h]
    exact if_pos (Nat.le_trans (le_ofDigitChars _ cs) h)

/-- Only the number zero is written with a zero in front. -/
theorem head?_toDigits (h : n ≠ 0) : (Nat.toDigits 10 n).head? ≠ some '0' := by
  induction n using Nat.strongRecOn with
  | ind n ih =>
    rw [Nat.toDigits_eq_if (by decide)]
    split
    · simpa using h
    · rw [List.head?_append, List.head?_eq_some_head Nat.toDigits_ne_nil, Option.some_or,
        ← List.head?_eq_some_head]
      exact ih (n / 10) (by omega) (by omega)

/-- A number is written in at least one digit. -/
theorem exists_toDigits_eq (n : Nat) : ∃ c digits, Nat.toDigits 10 n = c :: digits ∧
    ∀ d ∈ c :: digits, d.isDigit = true := by
  obtain ⟨c, digits, hcons⟩ := List.exists_cons_of_ne_nil (Nat.toDigits_ne_nil (n := n) (b := 10))
  exact ⟨c, digits, hcons,
    fun d hd => Nat.isDigit_of_mem_toDigits (by decide) (by decide) (hcons ▸ hd)⟩

/-- A run of digits ends where the number ends. -/
theorem takeWhile_isDigit (hcs : ∀ c ∈ cs, c.isDigit = true) (hrest : EndsNumber rest) :
    (cs ++ rest).takeWhile Char.isDigit = cs ∧ (cs ++ rest).dropWhile Char.isDigit = rest := by
  rw [List.takeWhile_append_of_pos hcs, List.dropWhile_append_of_pos hcs]
  cases rest with
  | nil => simp
  | cons c rest => simp [hrest.1]

/-- The number that digits are which nothing more follows. -/
def wholeNumeral (negative : Bool) (digits : List Char) : Numeral :=
  let (m, _, left) := takeDigits 0 digits
  if negative || left != 0 then otherNumeral m left else .natural m

/-- A number that nothing more follows is its whole part. -/
theorem scanAfterWhole_of_ends (negative : Bool) (digits : List Char) (hrest : EndsNumber rest) :
    scanAfterWhole negative digits rest = (wholeNumeral negative digits, rest) := by
  rw [scanAfterWhole, wholeNumeral]
  dsimp only
  split
  · exact absurd rfl hrest.2.1
  · exact absurd rfl hrest.2.2.1
  · exact absurd rfl hrest.2.2.2
  · split <;> rfl

/-- The digits of a number are its whole part. -/
theorem scanUnsigned_toDigits (negative : Bool) (n : Nat) (hrest : EndsNumber rest) :
    scanUnsigned negative (Nat.toDigits 10 n ++ rest) =
      (wholeNumeral negative (Nat.toDigits 10 n), rest) := by
  rw [← scanAfterWhole_of_ends negative _ hrest]
  rcases Nat.eq_zero_or_pos n with rfl | hn
  · rw [Nat.toDigits_zero]
    cases rest with
    | nil => rfl
    | cons c rest => simp [scanUnsigned, hrest.1]
  · obtain ⟨c, digits, hcons, hdigits⟩ := exists_toDigits_eq n
    obtain ⟨htake, hdrop⟩ := takeWhile_isDigit hdigits hrest
    have hzero : c ≠ '0' := by
      have hhead := head?_toDigits (Nat.ne_of_gt hn)
      rw [hcons] at hhead
      exact fun h => hhead (congrArg some h)
    rw [hcons]
    rw [List.cons_append] at htake hdrop ⊢
    rw [scanUnsigned]
    · rw [if_pos (hdigits c List.mem_cons_self), htake, hdrop]
    · exact hzero

/-- What a number is read as that is written. -/
def Numeral.ofInt : Int → Numeral
  | .ofNat n => wholeNumeral false (Nat.toDigits 10 n)
  | .negSucc n => wholeNumeral true (Nat.toDigits 10 (n + 1))

/-- A number is read up to its end. -/
theorem Numeral.scan_numberChars (n : Int) (hrest : EndsNumber rest) :
    scan (Value.numberChars n ++ rest) = (ofInt n, rest) := by
  cases n with
  | negSucc n => exact scanUnsigned_toDigits true (n + 1) hrest
  | ofNat n =>
    have hread := scanUnsigned_toDigits false n hrest
    obtain ⟨c, digits, hcons, hdigits⟩ := exists_toDigits_eq n
    rw [ofInt, Value.numberChars]
    rw [hcons, List.cons_append] at hread ⊢
    rw [scan]
    · exact hread
    · rintro after h
      obtain ⟨rfl, -⟩ := List.cons.inj h
      exact absurd (hdigits '-' List.mem_cons_self) (by decide)

/-- A number is written with a sign or a digit in front. -/
theorem exists_numberChars_eq (n : Int) : ∃ c digits, Value.numberChars n = c :: digits ∧
    (c = '-' ∨ c.isDigit = true) := by
  cases n with
  | negSucc n => exact ⟨'-', Nat.toDigits 10 (n + 1), rfl, .inl rfl⟩
  | ofNat n =>
    obtain ⟨c, digits, hcons, hdigits⟩ := exists_toDigits_eq n
    exact ⟨c, digits, hcons, .inr (hdigits c List.mem_cons_self)⟩

/-- A natural number of 64 bits is read as such. -/
theorem Numeral.ofInt_natCast (h : n ≤ maxNatural) : ofInt n = .natural n := by
  have hdigits : takeDigits 0 (Nat.toDigits 10 n) = (n, (Nat.toDigits 10 n).length, 0) := by
    rw [takeDigits_of_le] <;> rw [Nat.ofDigitChars_ten_toDigits]
    exact h
  change wholeNumeral false (Nat.toDigits 10 n) = _
  rw [wholeNumeral, hdigits]
  rfl

end TwigRelations.Json
