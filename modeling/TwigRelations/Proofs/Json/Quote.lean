import Mathlib.Data.List.Forall2
import Mathlib.Tactic.SplitIfs
import TwigRelations.Json.Token

/-!
# Strings are read back

What is written between quotation marks for the characters of a string is read as that string. Each
character is read as one piece, which stands for it alone: no numbered escape that is written is
half of a character.
-/

namespace TwigRelations.Json

/-- A piece stands for one character by itself. -/
inductive Piece.StandsFor : Piece → Char → Prop
  /-- A character that is written as it is or by a letter. -/
  | char (c : Char) : StandsFor (.char c) c
  /-- A control that is written by its number. -/
  | control {c : Char} (h : c.toNat < 0x20) : StandsFor (.unit c.toNat) c

variable {piece : Piece} {c : Char} {pieces : List Piece} {cs rest done : List Char}
  {last : Option Fault}

/-- A piece that stands for a character is joined as that character. -/
theorem Piece.StandsFor.joinPieces (h : piece.StandsFor c) :
    joinPieces last done (piece :: pieces) = joinPieces last (c :: done) pieces := by
  cases h with
  | char => rw [Json.joinPieces]
  | control hc =>
    have htrailing : isTrailing c.toNat = false := by
      simp only [isTrailing, Bool.and_eq_false_iff, decide_eq_false_iff_not]
      omega
    have hleading : isLeading c.toNat = false := by
      simp only [isLeading, Bool.and_eq_false_iff, decide_eq_false_iff_not]
      omega
    rw [Json.joinPieces.eq_def]
    simp only [htrailing, hleading, Char.ofNat_toNat, Bool.false_eq_true, if_false]

/-- Pieces are joined to the characters that they stand for. -/
theorem joinPieces_of_forall₂ (h : List.Forall₂ Piece.StandsFor pieces cs) :
    joinPieces none done pieces = .ok (done.reverse ++ cs) := by
  induction h generalizing done with
  | nil => rw [joinPieces, List.append_nil]
  | cons hpiece _ ih => rw [hpiece.joinPieces, ih, List.reverse_cons, List.append_assoc]; rfl

/-- The two digits that a control is numbered by are read as its number. -/
theorem unit?_hexDigit : ∀ n < 0x20,
    unit? '0' '0' (hexDigit (n / 16)) (hexDigit (n % 16)) = some n := by decide

/-- A letter behind a backslash is read as the character that it stands for. -/
theorem scanString_letter {e : Char} (h : escape? e = some c) (hu : e ≠ 'u') :
    scanString pieces ('\\' :: e :: cs) = scanString (.char c :: pieces) cs := by
  rw [scanString.eq_def]
  simp [h, hu]

/-- A control that is written by its number is read as that number. -/
theorem scanString_control (h : c.toNat < 0x20) :
    scanString pieces ('\\' :: 'u' :: '0' :: '0' :: hexDigit (c.toNat / 16) ::
      hexDigit (c.toNat % 16) :: cs) = scanString (.unit c.toNat :: pieces) cs := by
  rw [scanString, unit?_hexDigit c.toNat h]

/-- A character that is no mark, no backslash and no control is read as it is. -/
theorem scanString_plain (hmark : c ≠ '"') (hbackslash : c ≠ '\\') (hcontrol : ¬c.toNat < 0x20) :
    scanString pieces (c :: cs) = scanString (.char c :: pieces) cs := by
  rw [scanString.eq_def]
  simp [hbackslash, hcontrol]

/-- What is written for a character is read as a piece that stands for it. -/
theorem exists_scanString_escapeChar (c : Char) : ∃ piece : Piece, piece.StandsFor c ∧
    ∀ pieces cs, scanString pieces (escapeChar c ++ cs) = scanString (piece :: pieces) cs := by
  have hletter (e : Char) (h : escape? e = some c) (hu : e ≠ 'u') :
      ∃ piece : Piece, piece.StandsFor c ∧ ∀ pieces cs,
        scanString pieces (['\\', e] ++ cs) = scanString (piece :: pieces) cs :=
    ⟨.char c, .char c, fun _ _ => scanString_letter h hu⟩
  unfold escapeChar
  split_ifs with h h₁ h₂ h₃ h₄ h₅ h₆ hcontrol
  · exact hletter '"' (by rw [h]; rfl) (by decide)
  · exact hletter '\\' (by rw [h₁]; rfl) (by decide)
  · exact hletter 'b' (by rw [h₂]; rfl) (by decide)
  · exact hletter 'f' (by rw [h₃]; rfl) (by decide)
  · exact hletter 'n' (by rw [h₄]; rfl) (by decide)
  · exact hletter 'r' (by rw [h₅]; rfl) (by decide)
  · exact hletter 't' (by rw [h₆]; rfl) (by decide)
  · exact ⟨.unit c.toNat, .control hcontrol, fun _ _ => scanString_control hcontrol⟩
  · exact ⟨.char c, .char c, fun _ _ => scanString_plain h h₁ hcontrol⟩

/-- What is written for a string is read up to the closing mark. -/
theorem exists_scanString_escaped (cs : List Char) :
    ∃ pieces, List.Forall₂ Piece.StandsFor pieces cs ∧ ∀ before rest,
      scanString before (cs.flatMap escapeChar ++ '"' :: rest) =
        (before.reverse ++ pieces, .ok rest) := by
  induction cs with
  | nil => exact ⟨[], .nil, fun before rest => by simp [scanString]⟩
  | cons c cs ih =>
    obtain ⟨piece, hpiece, hscan⟩ := exists_scanString_escapeChar c
    obtain ⟨pieces, hpieces, hrest⟩ := ih
    refine ⟨piece :: pieces, .cons hpiece hpieces, fun before rest => ?_⟩
    rw [List.flatMap_cons, List.append_assoc, hscan, hrest, List.reverse_cons, List.append_assoc]
    rfl

/-- A string that is written is read as itself. -/
theorem Quoted.scan_quoteString (s : String) (rest : List Char) :
    scan (s.toList.flatMap escapeChar ++ '"' :: rest) = (⟨.ok s, none⟩, rest) := by
  obtain ⟨pieces, hpieces, hscan⟩ := exists_scanString_escaped s.toList
  rw [scan, hscan]
  dsimp only
  rw [List.reverse_nil, List.nil_append, joinPieces_of_forall₂ hpieces, List.reverse_nil,
    List.nil_append, Except.map, String.ofList_toList]

end TwigRelations.Json
