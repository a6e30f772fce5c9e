import Mathlib.Data.List.TakeWhile
import TwigRelations.Json.Tree
import TwigRelations.Proofs.Json.Numeral
import TwigRelations.Proofs.Json.Quote

/-!
# Values are read back

Both ways of writing a value, on one line and over several, put the same tokens into the text, with
nothing but blanks between them. From these tokens the tree of the value is built, so the text of a
value is read as its tree.
-/

namespace TwigRelations.Json

/-- A string as it is read that was written whole. -/
def Quoted.ofString (s : String) : Quoted := ⟨.ok s, none⟩

namespace Value

mutual

/-- The tokens that a value is written in. -/
def tokens : Value → List Token
  | null => [.word none]
  | bool b => [.word (some b)]
  | number n => [.number (.ofInt n)]
  | text s => [.text (.ofString s)]
  | array items => .openBracket :: itemTokens items
  | object members => .openBrace :: memberTokens members

/-- The tokens of the items of an array and of its closing mark. -/
def itemTokens : List Value → List Token
  | [] => [.closeBracket]
  | [item] => tokens item ++ [.closeBracket]
  | item :: rest => tokens item ++ .comma :: itemTokens rest

/-- The tokens of the members of an object and of its closing mark. -/
def memberTokens : List (String × Value) → List Token
  | [] => [.closeBrace]
  | [(key, value)] => .text (.ofString key) :: .colon :: tokens value ++ [.closeBrace]
  | (key, value) :: rest =>
    .text (.ofString key) :: .colon :: tokens value ++ .comma :: memberTokens rest

end

mutual

/-- The tree of a value. -/
def toTree : Value → Tree
  | null => .null
  | bool b => .bool b
  | number n => .number (.ofInt n)
  | text s => .text (.ofString s)
  | array items => .array (itemTrees items) .closed
  | object members => .object (memberTrees members) .closed

/-- The trees of the items of an array. -/
def itemTrees : List Value → List Tree
  | [] => []
  | item :: rest => toTree item :: itemTrees rest

/-- The trees of the members of an object. -/
def memberTrees : List (String × Value) → List (Tree × Tree)
  | [] => []
  | (key, value) :: rest => (.text (.ofString key), toTree value) :: memberTrees rest

end

/-- The trees of members stand in the order of the members. -/
theorem memberTrees_append (members members' : List (String × Value)) :
    memberTrees (members ++ members') = memberTrees members ++ memberTrees members' := by
  induction members with
  | nil => rfl
  | cons member members ih => rw [List.cons_append, memberTrees, memberTrees, ih, List.cons_append]

end Value

/-- A text begins with some tokens, with blanks before each at most, and goes on with a given
rest. -/
inductive Scans : List Char → List Token → List Char → Prop
  /-- No token. -/
  | nil (cs : List Char) : Scans cs [] cs
  /-- A token behind some blanks, and further tokens. -/
  | cons {gap taken rest cs : List Char} {c : Char} {token : Token} {tokens : List Token}
    (hgap : ∀ g ∈ gap, Token.isGap g = true) (hc : Token.isGap c = false)
    (htoken : Token.scan c (taken ++ rest) = (token, rest)) (h : Scans rest tokens cs) :
    Scans (gap ++ c :: (taken ++ rest)) (token :: tokens) cs

namespace Scans

variable {cs cs' rest gap : List Char} {c : Char} {token : Token} {tokens tokens' : List Token}

/-- Texts that are scanned one behind the other are scanned as one. -/
theorem append (h : Scans cs tokens cs') (h' : Scans cs' tokens' rest) :
    Scans cs (tokens ++ tokens') rest := by
  induction h with
  | nil => exact h'
  | cons hgap hc htoken _ ih => exact .cons hgap hc htoken (ih h')

/-- Blanks may be put before a token. -/
theorem behind_gap (hgap : ∀ g ∈ gap, Token.isGap g = true) (h : Scans cs (token :: tokens) rest) :
    Scans (gap ++ cs) (token :: tokens) rest := by
  cases h with
  | cons hgap' hc htoken h =>
    rw [← List.append_assoc]
    refine .cons (fun g hg => ?_) hc htoken h
    exact (List.mem_append.mp hg).elim (hgap g) (hgap' g)

/-- A single token without blanks before it. -/
theorem single {taken : List Char} (hc : Token.isGap c = false)
    (htoken : Token.scan c (taken ++ rest) = (token, rest)) :
    Scans (c :: (taken ++ rest)) [token] rest := by
  have hgap : ∀ g ∈ ([] : List Char), Token.isGap g = true := by simp
  exact .cons hgap hc htoken (.nil rest)

/-- A token that is one mark. -/
theorem mark (hc : Token.isGap c = false) (htoken : ∀ cs, Token.scan c cs = (token, cs)) :
    Scans (c :: rest) [token] rest := by
  have hscan : Token.scan c ([] ++ rest) = (token, rest) := htoken rest
  exact single hc hscan

/-- Each token takes at least one character. -/
theorem length_le (h : Scans cs tokens rest) : tokens.length ≤ cs.length := by
  induction h with
  | nil => exact Nat.zero_le _
  | cons hgap hc htoken _ ih =>
    simp only [List.length_cons, List.length_append]
    omega

/-- A text with nothing but blanks behind some tokens is cut into these. -/
theorem scanAll_eq {done : List Token} {count : Nat} (h : Scans cs tokens rest)
    (hrest : ∀ g ∈ rest, Token.isGap g = true) (hcount : tokens.length ≤ count) :
    Token.scanAll done count cs = done.reverse ++ tokens := by
  induction h generalizing done count with
  | nil cs =>
    have hblank : cs.dropWhile Token.isGap = [] := List.dropWhile_eq_nil_iff.mpr hrest
    cases count <;> simp [Token.scanAll, hblank]
  | @cons gap taken rest cs c token tokens hgap hc htoken _ ih =>
    obtain ⟨count, rfl⟩ := Nat.exists_eq_succ_of_ne_zero (Nat.ne_zero_of_lt hcount)
    have hdrop : (gap ++ c :: (taken ++ rest)).dropWhile Token.isGap = c :: (taken ++ rest) := by
      rw [List.dropWhile_append_of_pos hgap, List.dropWhile_cons_of_neg (by simp [hc])]
    rw [Token.scanAll, hdrop]
    dsimp only
    rw [htoken, ih hrest (Nat.le_of_succ_le_succ hcount), List.reverse_cons, List.append_assoc]
    rfl

/-- The tokens of a text are those that are scanned from it, where only blanks are left. -/
theorem ofText_eq (h : Scans cs tokens rest) (hrest : ∀ g ∈ rest, Token.isGap g = true) :
    Token.ofText cs = tokens := h.scanAll_eq hrest h.length_le

/-- A word is read as one token. -/
theorem scans_word {value : Option Bool} {expected : List Char} (hc : Token.isGap c = false)
    (hword : ∀ cs, Token.scan c cs = Token.scanWord value expected cs) :
    Scans (c :: (expected ++ rest)) [.word value] rest := by
  have hexpect : Token.expectWord expected (expected ++ rest) = .ok rest := by
    clear hword
    induction expected with
    | nil => rfl
    | cons e expected ih => simpa [Token.expectWord] using ih
  refine single hc ?_
  rw [hword, Token.scanWord, hexpect]

/-- A sign or a digit is no blank. -/
theorem isGap_of_number (hc : c = '-' ∨ c.isDigit = true) : Token.isGap c = false := by
  rw [Bool.eq_false_iff]
  intro hgap
  simp only [Token.isGap, Bool.or_eq_true, beq_iff_eq] at hgap
  rcases hgap with ((rfl | rfl) | rfl) | rfl <;> exact absurd hc (by decide)

/-- A number begins with a sign or a digit. -/
theorem scan_of_number (hc : c = '-' ∨ c.isDigit = true) (cs : List Char) : Token.scan c cs =
    (.number (Numeral.scan (c :: cs)).1, (Numeral.scan (c :: cs)).2) := by
  rw [Token.scan.eq_def]
  split
  case h_11 => exact if_pos (by simpa using hc)
  all_goals exact absurd hc (by decide)

/-- A number is read as one token up to its end. -/
theorem scans_number (n : Int) (hrest : EndsNumber rest) :
    Scans (Value.numberChars n ++ rest) [.number (.ofInt n)] rest := by
  have hread := Numeral.scan_numberChars n hrest
  obtain ⟨c, digits, hcons, hc⟩ := exists_numberChars_eq n
  rw [hcons, List.cons_append] at hread ⊢
  refine single (isGap_of_number hc) ?_
  rw [scan_of_number hc, hread]

/-- A string is read as one token up to its closing mark. -/
theorem scans_text (s : String) : Scans (quoteString s ++ rest) [.text (.ofString s)] rest := by
  have hread : Token.scan '"' (s.toList.flatMap escapeChar ++ ['"'] ++ rest) =
      (.text (.ofString s), rest) := by
    rw [List.append_assoc, Token.scan, List.singleton_append, Quoted.scan_quoteString]
    rfl
  exact single (by decide) hread

end Scans

namespace Value

variable {rest : List Char}

/-- No number goes on with a mark or at the end of a line. -/
theorem endsNumber_cons {c : Char} (hc : c ∈ [',', ']', '\x7d', '\n']) :
    EndsNumber (c :: rest) := by
  simp only [List.mem_cons, List.not_mem_nil, or_false] at hc
  rcases hc with rfl | rfl | rfl | rfl <;> exact ⟨by decide, by decide, by decide, by decide⟩

theorem scans_comma : Scans (',' :: rest) [.comma] rest := .mark (by decide) fun _ => rfl

theorem scans_closeBracket : Scans (']' :: rest) [.closeBracket] rest :=
  .mark (by decide) fun _ => rfl

theorem scans_closeBrace : Scans ('\x7d' :: rest) [.closeBrace] rest :=
  .mark (by decide) fun _ => rfl

theorem scans_openBracket : Scans ('[' :: rest) [.openBracket] rest :=
  .mark (by decide) fun _ => rfl

theorem scans_openBrace : Scans ('\x7b' :: rest) [.openBrace] rest :=
  .mark (by decide) fun _ => rfl

theorem scans_colon : Scans (':' :: rest) [.colon] rest := .mark (by decide) fun _ => rfl

/-- A key is followed by a colon. -/
theorem scans_key (key : String) : Scans (quoteString key ++ ':' :: rest)
    [.text (.ofString key), .colon] rest := (Scans.scans_text key).append scans_colon

mutual

/-- A value on one line is cut into its tokens. -/
theorem scans_compactChars (v : Value) (rest : List Char) (hrest : EndsNumber rest) :
    Scans (v.compactChars ++ rest) v.tokens rest := by
  cases v with
  | null => exact .scans_word (by decide) fun _ => rfl
  | bool b => cases b <;> exact .scans_word (by decide) fun _ => rfl
  | number n => exact .scans_number n hrest
  | text s => exact .scans_text s
  | array items => exact scans_openBracket.append (scans_compactItems items rest)
  | object members => exact scans_openBrace.append (scans_compactMembers members rest)

/-- Items on one line are scanned as their tokens. -/
theorem scans_compactItems (items : List Value) (rest : List Char) :
    Scans (compactItems items ++ rest) (itemTokens items) rest := by
  match items with
  | [] => exact scans_closeBracket
  | [item] =>
    have hitem := scans_compactChars item (']' :: rest) (endsNumber_cons (by simp))
    simpa [compactItems, itemTokens] using hitem.append scans_closeBracket
  | item :: next :: items =>
    have hitem := scans_compactChars item (',' :: (compactItems (next :: items) ++ rest))
      (endsNumber_cons (by simp))
    simpa [compactItems, itemTokens] using
      hitem.append (scans_comma.append (scans_compactItems (next :: items) rest))

theorem scans_compactMembers (members : List (String × Value)) (rest : List Char) :
    Scans (compactMembers members ++ rest) (memberTokens members) rest := by
  match members with
  | [] => exact scans_closeBrace
  | [(key, value)] =>
    have hvalue := scans_compactChars value ('\x7d' :: rest) (endsNumber_cons (by simp))
    simpa [compactMembers, memberTokens] using
      (scans_key key).append (hvalue.append scans_closeBrace)
  | (key, value) :: next :: members =>
    have hvalue := scans_compactChars value (',' :: (compactMembers (next :: members) ++ rest))
      (endsNumber_cons (by simp))
    simpa [compactMembers, memberTokens] using (scans_key key).append
      (hvalue.append (scans_comma.append (scans_compactMembers (next :: members) rest)))

end

/-- The beginning of a line is blank. -/
theorem isGap_of_mem_newLine {level : Nat} : ∀ g ∈ newLine level, Token.isGap g = true := by
  rw [newLine, List.forall_mem_cons]
  refine ⟨by decide, fun g hg => ?_⟩
  obtain rfl := List.eq_of_mem_replicate hg
  decide

/-- A line ends any number. -/
theorem endsNumber_newLine (level : Nat) : EndsNumber (newLine level ++ rest) :=
  endsNumber_cons (by simp)

/-- The first token of a value closes nothing. -/
theorem exists_tokens_eq (v : Value) : ∃ token tokens, v.tokens = token :: tokens ∧
    token ≠ .closeBracket := by
  cases v with
  | null | bool b | number n | text s => exact ⟨_, [], rfl, nofun⟩
  | array items => exact ⟨_, _, rfl, nofun⟩
  | object members => exact ⟨_, _, rfl, nofun⟩

/-- Blanks may be put before a value. -/
theorem scans_behind_gap {gap cs : List Char} {v : Value} (hgap : ∀ g ∈ gap, Token.isGap g = true)
    (h : Scans cs v.tokens rest) : Scans (gap ++ cs) v.tokens rest := by
  obtain ⟨token, tokens, htokens, -⟩ := v.exists_tokens_eq
  rw [htokens] at h ⊢
  exact h.behind_gap hgap

mutual

/-- A value over several lines is cut into its tokens. -/
theorem scans_prettyChars (level : Nat) (v : Value) (rest : List Char) (hrest : EndsNumber rest) :
    Scans (prettyChars level v ++ rest) v.tokens rest := by
  match v with
  | null => exact .scans_word (by decide) fun _ => rfl
  | bool true => exact .scans_word (by decide) fun _ => rfl
  | bool false => exact .scans_word (by decide) fun _ => rfl
  | number n => exact .scans_number n hrest
  | text s => exact .scans_text s
  | array [] => exact scans_openBracket.append scans_closeBracket
  | array (item :: items) =>
    exact scans_openBracket.append (scans_prettyItems level (item :: items) rest)
  | object [] => exact scans_openBrace.append scans_closeBrace
  | object (member :: members) =>
    exact scans_openBrace.append (scans_prettyMembers level (member :: members) rest)

/-- Items on lines of their own are scanned as their tokens. -/
theorem scans_prettyItems (level : Nat) (items : List Value) (rest : List Char) :
    Scans (prettyItems level items ++ rest) (itemTokens items) rest := by
  match items with
  | [] => simpa [prettyItems, itemTokens] using scans_closeBracket.behind_gap isGap_of_mem_newLine
  | [item] =>
    have hitem := scans_prettyChars (level + 1) item (newLine level ++ ']' :: rest)
      (endsNumber_newLine level)
    have hclose : Scans (newLine level ++ ']' :: rest) [.closeBracket] rest :=
      scans_closeBracket.behind_gap isGap_of_mem_newLine
    simpa [prettyItems, itemTokens] using
      (scans_behind_gap isGap_of_mem_newLine hitem).append hclose
  | item :: next :: items =>
    have hitem := scans_prettyChars (level + 1) item
      (',' :: (prettyItems level (next :: items) ++ rest)) (endsNumber_cons (by simp))
    simpa [prettyItems, itemTokens] using (scans_behind_gap isGap_of_mem_newLine hitem).append
      (scans_comma.append (scans_prettyItems level (next :: items) rest))

theorem scans_prettyMembers (level : Nat) (members : List (String × Value)) (rest : List Char) :
    Scans (prettyMembers level members ++ rest) (memberTokens members) rest := by
  have hblank : ∀ g ∈ [' '], Token.isGap g = true := List.forall_mem_singleton.mpr rfl
  have hkey (key : String) (cs : List Char) :
      Scans (newLine (level + 1) ++ (quoteString key ++ ':' :: cs)) [.text (.ofString key), .colon]
        cs := (scans_key key).behind_gap isGap_of_mem_newLine
  match members with
  | [] => simpa [prettyMembers, memberTokens] using scans_closeBrace.behind_gap isGap_of_mem_newLine
  | [(key, value)] =>
    have hvalue := scans_prettyChars (level + 1) value (newLine level ++ '\x7d' :: rest)
      (endsNumber_newLine level)
    have hclose : Scans (newLine level ++ '\x7d' :: rest) [.closeBrace] rest :=
      scans_closeBrace.behind_gap isGap_of_mem_newLine
    simpa [prettyMembers, memberTokens] using
      (hkey key _).append ((scans_behind_gap hblank hvalue).append hclose)
  | (key, value) :: next :: members =>
    have hvalue := scans_prettyChars (level + 1) value
      (',' :: (prettyMembers level (next :: members) ++ rest)) (endsNumber_cons (by simp))
    simpa [prettyMembers, memberTokens] using (hkey key _).append
      ((scans_behind_gap hblank hvalue).append
        (scans_comma.append (scans_prettyMembers level (next :: members) rest)))

end

/-- An array whose first item comes is read on like one of which some items were read. -/
theorem foldl_firstItem (item : Value) (items : List Value) (frames : List Frame) :
    (itemTokens (item :: items)).foldl Reading.next (.inside (.array [] :: frames) .firstItem) =
      (itemTokens (item :: items)).foldl Reading.next (.inside (.array [] :: frames) .value) := by
  obtain ⟨token, tokens, htokens, hopen⟩ := item.exists_tokens_eq
  have hfirst : ∃ rest, itemTokens (item :: items) = token :: rest := by
    cases items <;> simp [itemTokens, htokens]
  obtain ⟨rest, hrest⟩ := hfirst
  rw [hrest, List.foldl_cons, List.foldl_cons]
  cases token with
  | closeBracket => contradiction
  | _ => rfl

/-- The tokens of a key and a value, and those behind them. -/
theorem foldl_member {value : Value} {key : String} {done : List (Tree × Tree)}
    {frames : List Frame} {expecting : Expecting} (tokens : List Token)
    (hexpecting : expecting = .firstKey ∨ expecting = .key)
    (hvalue : ∀ frames, value.tokens.foldl Reading.next (.inside frames .value) =
      Reading.place value.toTree frames) :
    (.text (.ofString key) :: .colon :: (value.tokens ++ tokens)).foldl Reading.next
        (.inside (.object done :: frames) expecting) =
      tokens.foldl Reading.next
        (.inside (.object ((.text (.ofString key), value.toTree) :: done) :: frames)
          .separator) := by
  have hkey : Reading.next (.inside (.object done :: frames) expecting) (.text (.ofString key)) =
      .inside (.member done (.text (.ofString key)) :: frames) .colon := by
    rcases hexpecting with rfl | rfl <;> rfl
  rw [List.foldl_cons, hkey, List.foldl_cons, List.foldl_append]
  exact congrArg (tokens.foldl Reading.next) (hvalue (.member done _ :: frames))

mutual

/-- From the tokens of a value its tree is built, where a value may stand. -/
theorem foldl_tokens (v : Value) (frames : List Frame) :
    v.tokens.foldl Reading.next (.inside frames .value) = Reading.place v.toTree frames := by
  match v with
  | null | bool true | bool false | number n | text s => cases frames <;> rfl
  | array [] => rfl
  | array (item :: items) =>
    rw [tokens, List.foldl_cons]
    exact (foldl_firstItem item items frames).trans
      (foldl_itemTokens (item :: items) (by simp) [] frames)
  | object [] => rfl
  | object (member :: members) =>
    rw [tokens, List.foldl_cons]
    exact foldl_memberTokens (member :: members) (by simp) [] frames (.inl rfl)

/-- From the tokens of items an array is built that ends with them. -/
theorem foldl_itemTokens (items : List Value) (hne : items ≠ []) (done : List Tree)
    (frames : List Frame) :
    (itemTokens items).foldl Reading.next (.inside (.array done :: frames) .value) =
      Reading.place (.array (done.reverse ++ itemTrees items) .closed) frames := by
  match items with
  | [] => contradiction
  | [item] =>
    rw [itemTokens, List.foldl_append, foldl_tokens item, itemTrees, itemTrees,
      ← List.reverse_cons]
    rfl
  | item :: next :: items =>
    have hrest := foldl_itemTokens (next :: items) (by simp) (item.toTree :: done) frames
    rw [List.reverse_cons, List.append_assoc] at hrest
    rw [itemTokens, List.foldl_append, foldl_tokens item, itemTrees]
    · exact hrest
    · simp

/-- From the tokens of members an object is built that ends with them. -/
theorem foldl_memberTokens (members : List (String × Value)) (hne : members ≠ [])
    (done : List (Tree × Tree)) (frames : List Frame) {expecting : Expecting}
    (hexpecting : expecting = .firstKey ∨ expecting = .key) :
    (memberTokens members).foldl Reading.next (.inside (.object done :: frames) expecting) =
      Reading.place (.object (done.reverse ++ memberTrees members) .closed) frames := by
  match members with
  | [] => contradiction
  | [(key, value)] =>
    rw [memberTokens, List.cons_append, List.cons_append,
      foldl_member _ hexpecting (foldl_tokens value), memberTrees, memberTrees,
      ← List.reverse_cons]
    rfl
  | (key, value) :: next :: members =>
    have hrest := foldl_memberTokens (next :: members) (by simp)
      ((.text (.ofString key), value.toTree) :: done) frames (.inr rfl)
    rw [List.reverse_cons, List.append_assoc] at hrest
    rw [memberTokens, List.cons_append, List.cons_append,
      foldl_member _ hexpecting (foldl_tokens value), memberTrees]
    · exact hrest
    · simp

end

/-- A text that is cut into the tokens of a value, with nothing but blanks behind them, is read as
its tree. -/
theorem source_of_scans {v : Value} {s : String} (rest : List Char)
    (h : Scans s.toList v.tokens rest) (hrest : ∀ g ∈ rest, Token.isGap g = true) :
    Source.ofText s = ⟨v.toTree, false⟩ := by
  rw [Source.ofText, h.ofText_eq hrest, foldl_tokens]
  rfl

/-- A value on one line is read as its tree. -/
theorem source_compact (v : Value) : Source.ofText v.compact = ⟨v.toTree, false⟩ := by
  refine source_of_scans [] ?_ (by simp)
  simpa [compact] using scans_compactChars v [] trivial

/-- A value over several lines is read as its tree, also as a text that ends with a line. -/
theorem source_pretty (v : Value) : Source.ofText v.pretty = ⟨v.toTree, false⟩ ∧
    Source.ofText (v.pretty ++ "\n") = ⟨v.toTree, false⟩ := by
  constructor
  · refine source_of_scans [] ?_ (by simp)
    simpa [pretty] using scans_prettyChars 0 v [] trivial
  · refine source_of_scans ['\n'] ?_ (List.forall_mem_singleton.mpr rfl)
    simpa [pretty] using scans_prettyChars 0 v ['\n'] (endsNumber_cons (by simp))

end Value

end TwigRelations.Json
