import Waybill.Code.Lexer
import Waybill.Proofs.Text.Ascii

/-!
# Literals are read as they were written

Generated code holds literals for texts, characters and numbers. Whoever reads that code reads the
literal from its written form, so this form has to stand for the value that it was written for. A
text is written character by character, each as itself or with an escape; the reader is in the same
state behind either of them, with one more character. A number is written with its digits, and a
reader that starts from zero ends with the number.

## Main definitions

* `Waybill.Code.Inside.Spells`: an escape, or what is left of one, that stands for a character.
* `Waybill.Code.IsCharacter`: a character between quotes, as itself or with an escape.

## Main results

* `Waybill.Code.lex_of_leaf`: a text that is one token.
* `Waybill.Code.lex_ofText`, `Waybill.Code.lex_ofChar`, `Waybill.Code.lex_toString`: the literals of
  texts, characters and numbers.
-/

namespace Waybill.Code

variable {c : Char} {quotes cs rest : List Char} {state : Inside}

/-! ### Escapes -/

/-- Inside an escape, a text adds one character, with its last one. -/
inductive Inside.Spells (c : Char) : Inside → List Char → Prop
  | last {state : Inside} {d : Char} (hend : state.mayEnd = false)
    (hstep : state.step .text d = some (some c, .plain)) : Spells c state [d]
  | more {state next : Inside} {d : Char} {rest : List Char} (hend : state.mayEnd = false)
    (hstep : state.step .text d = some (none, next)) (hrest : Spells c next rest) :
    Spells c state (d :: rest)

theorem readQuoted_cons_of_pending {next : Inside} (hend : c = '"' → state.mayEnd = false)
    (hstep : state.step .text c = some (none, next)) (rest : List Char) :
    readQuoted .text state (c :: rest) = readQuoted .text next rest := by
  have hgo : (c == '"' && state.mayEnd) = false := by simpa using hend
  rw [readQuoted, hgo, hstep]
  exact congrFun Option.map_id (readQuoted .text next rest)

theorem readQuoted_cons_of_added {d : Char} {next : Inside} (hend : d = '"' → state.mayEnd = false)
    (hstep : state.step .text d = some (some c, next)) (rest : List Char) :
    readQuoted .text state (d :: rest) =
      (readQuoted .text next rest).map fun (s, after) => (c :: s, after) := by
  have hgo : (d == '"' && state.mayEnd) = false := by simpa using hend
  rw [readQuoted, hgo, hstep]
  rfl

theorem Inside.Spells.readQuoted (h : Inside.Spells c state cs) (rest : List Char) :
    readQuoted .text state (cs ++ rest) =
      (readQuoted .text .plain rest).map fun (s, after) => (c :: s, after) := by
  induction h with
  | last hend hstep => exact readQuoted_cons_of_added (fun _ => hend) hstep rest
  | more hend hstep _ ih =>
    rw [List.cons_append, readQuoted_cons_of_pending (fun _ => hend) hstep, ih]

theorem Inside.Spells.readOne (h : Inside.Spells c state cs) (rest : List Char) :
    readOne .text state (cs ++ rest) = some (c, rest) := by
  induction h with
  | last _ hstep => simp [Code.readOne, hstep]
  | more _ hstep _ ih =>
    rw [List.cons_append, Code.readOne, hstep]
    exact ih

theorem Inside.Spells.digits {ds tail : List Char} {value count : Nat}
    (hdigits : ∀ d ∈ ds, ∃ v, Ascii.hexValue? d = some v) (hcount : count + ds.length ≤ 6)
    (htail : Inside.Spells c
      (.codeDigits (ds.foldl (Ascii.addDigit 16) value) (count + ds.length)) tail) :
    Inside.Spells c (.codeDigits value count) (ds ++ tail) := by
  induction ds generalizing value count with
  | nil => exact htail
  | cons d ds ih =>
    obtain ⟨⟨v, hv⟩, hdigits⟩ := List.forall_mem_cons.mp hdigits
    rw [List.length_cons] at hcount htail
    have hstep : Inside.step .text d (.codeDigits value count) =
        some (none, .codeDigits (Ascii.addDigit 16 value d) (count + 1)) := by
      rw [Ascii.addDigit, Inside.step, hv, Option.getD_some]
      exact if_pos (by omega)
    refine .more rfl hstep (ih hdigits (by omega) ?_)
    rwa [Nat.add_assoc, Nat.add_comm 1]

/-- The code point of a character in braces stands for the character. -/
theorem Inside.spells_hexDigits (c : Char) :
    Inside.Spells c (.codeDigits 0 0) ((hexDigits c.toNat).toList ++ ['}']) := by
  have hlength : (Nat.toDigits 16 c.toNat).length ≤ 6 := by
    rw [Nat.length_toDigits_le_iff (by decide) (by decide)]
    have hvalid := c.valid
    unfold UInt32.isValidChar Nat.isValidChar at hvalid
    change c.val.toNat < _
    omega
  have hpos : 0 < (Nat.toDigits 16 c.toNat).length := Nat.length_toDigits_pos
  rw [hexDigits, String.toList_ofList]
  -- behind the digits only the brace is left, and the value is the code point
  refine .digits (Ascii.exists_hexValue?_of_mem_toDigits _) (by omega) (.last rfl ?_)
  rw [Ascii.foldl_addDigit_toDigits (by decide) (by decide)]
  have hyields : TextKind.yields .text c.toNat = some (some c, .plain) := by
    have hvalid : c.toNat.isValidChar := c.valid
    simp [TextKind.yields, hvalid]
  have hclose : Ascii.hexValue? '}' = none := by decide
  simp [Inside.step, hclose, hyields, hpos]

/-- A text that stands for a character between quotes: the character itself, or an escape. -/
inductive IsCharacter (quotes : List Char) (c : Char) : List Char → Prop
  | plain (hescape : c ≠ '\\') (hreturn : c ≠ '\r') (hquote : c ∉ quotes) : IsCharacter quotes c [c]
  | escape {d : Char} {rest : List Char} (hfeed : d ≠ '\n') (hreturn : d ≠ '\r')
    (hspells : Inside.Spells c .escape (d :: rest)) : IsCharacter quotes c ('\\' :: d :: rest)

theorem IsCharacter.letter {d : Char} (hfeed : d ≠ '\n') (hreturn : d ≠ '\r')
    (hstep : Inside.step .text d .escape = some (some c, .plain)) :
    IsCharacter quotes c ['\\', d] := .escape hfeed hreturn (.last rfl hstep)

/-- **A character is written as itself or with an escape** that stands for it. -/
theorem isCharacter_char (hquotes : ∀ q ∈ quotes, q = '"' ∨ q = '\'') (c : Char) :
    IsCharacter quotes c (Quoted.char quotes c).toList := by
  unfold Quoted.char
  split_ifs with hzero htab hreturn hfeed hescape hquote hhidden
  case pos => exact beq_iff_eq.mp hzero ▸ .letter (by decide) (by decide) (by decide)
  case pos => exact beq_iff_eq.mp htab ▸ .letter (by decide) (by decide) (by decide)
  case pos => exact beq_iff_eq.mp hreturn ▸ .letter (by decide) (by decide) (by decide)
  case pos => exact beq_iff_eq.mp hfeed ▸ .letter (by decide) (by decide) (by decide)
  case pos => exact beq_iff_eq.mp hescape ▸ .letter (by decide) (by decide) (by decide)
  case pos =>
    rw [String.toList_append, Char.toString, String.toList_singleton]
    rcases hquotes c (by simpa using hquote) with rfl | rfl
    · exact .letter (by decide) (by decide) (by decide)
    · exact .letter (by decide) (by decide) (by decide)
  case pos =>
    have htext : (Quoted.byCode c).toList =
        '\\' :: 'u' :: '{' :: ((hexDigits c.toNat).toList ++ ['}']) := by
      rw [Quoted.byCode, String.toList_append, String.toList_append]
      rfl
    rw [htext]
    have hname : Inside.step .text 'u' .escape = some (none, .codePoint) := by decide
    have hbrace : Inside.step .text '{' .codePoint = some (none, .codeDigits 0 0) := by decide
    exact .escape (by decide) (by decide)
      (.more rfl hname (.more rfl hbrace (Inside.spells_hexDigits c)))
  case neg =>
    rw [Char.toString, String.toList_singleton]
    exact .plain (by simpa using hescape) (by simpa using hreturn) (by simpa using hquote)

/-! ### Texts and characters -/

theorem IsCharacter.readQuoted (h : IsCharacter ['"'] c cs) (rest : List Char) :
    readQuoted .text .plain (cs ++ rest) =
      (readQuoted .text .plain rest).map fun (s, after) => (c :: s, after) := by
  cases h with
  | plain hescape hreturn hquote =>
    have hstep : Inside.step .text c .plain = some (some c, .plain) := by
      simp [Inside.step, Inside.plainStep, TextKind.allows, hescape, hreturn]
    exact readQuoted_cons_of_added (fun h => absurd h (by simpa using hquote)) hstep rest
  | escape _ _ hspells =>
    have hstep : Inside.step .text '\\' .plain = some (none, .escape) := by decide
    rw [List.cons_append, readQuoted_cons_of_pending (by simp) hstep, hspells.readQuoted]

theorem readSingle_escape (hfeed : c ≠ '\n') (hreturn : c ≠ '\r') :
    readSingle .text ('\\' :: c :: rest) = readOne .text .escape (c :: rest) := by
  rw [readSingle]
  · rintro cs ⟨⟩
    exact hfeed rfl
  · rintro cs ⟨⟩
    exact hreturn rfl

theorem IsCharacter.readSingle (h : IsCharacter ['\''] c cs) (rest : List Char) :
    readSingle .text (cs ++ rest) = some (c, rest) := by
  cases h with
  | plain hescape _ _ =>
    rw [List.singleton_append, Code.readSingle] <;> simp [TextKind.allows, hescape]
  | escape hfeed hreturn hspells =>
    rw [List.cons_append, List.cons_append, readSingle_escape hfeed hreturn]
    exact hspells.readOne rest

/-- A zero is written in full where a digit could follow it. -/
theorem isCharacter_escaped (c : Char) (next : Option Char) :
    IsCharacter ['"'] c (Literal.escaped c next).toList := by
  unfold Literal.escaped
  split
  · rename_i hzero
    obtain rfl : c = '\x00' := beq_iff_eq.mp (Bool.and_eq_true_iff.mp hzero).1
    have hname : Inside.step .text 'x' .escape = some (none, .firstDigit) := by decide
    have hdigit : Inside.step .text '0' .firstDigit = some (none, .secondDigit 0) := by decide
    exact .escape (by decide) (by decide)
      (.more rfl hname (.more rfl hdigit (.last rfl (by decide))))
  · exact isCharacter_char (by simp) c

/-- **The inside of a text is read as the text.** -/
theorem readQuoted_inside (s rest : List Char) :
    readQuoted .text .plain ((Literal.inside s).toList ++ '"' :: rest) = some (s, rest) := by
  induction s with
  | nil => rfl
  | cons c s ih =>
    rw [Literal.inside, String.toList_append, List.append_assoc,
      (isCharacter_escaped c s.head?).readQuoted, ih]
    rfl

/-! ### Texts of one token -/

/-- A character that starts neither a gap nor a group. -/
structure StartsLeaf (c : Char) : Prop where
  gap : isGap c = false
  comment : c ≠ '/'
  fault : c ≠ '('
  byteOrder : c.toNat ≠ 0xFEFF
  opening : Delimiter.ofOpening? c = none
  closing : Delimiter.ofClosing? c = none

instance (c : Char) : Decidable (StartsLeaf c) :=
  decidable_of_iff (isGap c = false ∧ c ≠ '/' ∧ c ≠ '(' ∧ c.toNat ≠ 0xFEFF ∧
      Delimiter.ofOpening? c = none ∧ Delimiter.ofClosing? c = none)
    ⟨fun ⟨gap, comment, fault, byteOrder, opening, closing⟩ =>
        ⟨gap, comment, fault, byteOrder, opening, closing⟩,
      fun h => ⟨h.gap, h.comment, h.fault, h.byteOrder, h.opening, h.closing⟩⟩

theorem startsWith_of_ne {c d : Char} {start : String} {more : List Char}
    (hstart : start.toList = d :: more) (h : c ≠ d) (rest : List Char) :
    startsWith (c :: rest) start = false := by
  rw [startsWith, hstart, List.isPrefixOf, beq_false_of_ne h.symm, Bool.false_and]

/-- A token is read before the rest of a text. -/
theorem StartsLeaf.lexUpTo {fuel : Nat} {outer : List (Delimiter × List Token)} {met : List Token}
    {token : Token} (h : StartsLeaf c) (hleaf : leaf (c :: cs) = some (token, rest)) :
    lexUpTo (fuel + 1) outer met (c :: cs) = lexUpTo fuel outer (token :: met) rest := by
  have hcomment : ∀ start more, String.toList start = '/' :: more →
      startsWith (c :: cs) start = false :=
    fun start more hstart => startsWith_of_ne hstart h.comment cs
  have hskip : skip (c :: cs) = c :: cs := by
    rw [skip, List.length_cons, skipUpTo, isLineComment, isBlockComment, hcomment "//" _ rfl,
      hcomment "/**/" _ rfl, hcomment "/*" _ rfl, h.gap]
    rfl
  have hdoc : docComment (c :: cs) = none := by
    simp only [docComment, hcomment "//!" _ rfl, hcomment "/*!" _ rfl, hcomment "///" _ rfl,
      hcomment "/**" _ rfl, Bool.false_eq_true, if_false, Bool.false_and]
  have hfault : startsWith (c :: cs) faultMark = false := startsWith_of_ne rfl h.fault cs
  rw [Code.lexUpTo, hskip, hdoc]
  simp only [hfault, Bool.false_eq_true, if_false, h.opening, h.closing, hleaf]

/-- **A text that is one token** is read as that token. -/
theorem lex_of_leaf {s : String} {token : Token} (hs : s.toList = c :: cs) (h : StartsLeaf c)
    (hleaf : leaf (c :: cs) = some (token, [])) : lex s = some [token] := by
  have hstart : withoutByteOrder (c :: cs) = c :: cs := by
    rw [withoutByteOrder, beq_false_of_ne h.byteOrder]
    rfl
  rw [lex, hs, hstart, List.length_cons, h.lexUpTo hleaf]
  rfl

theorem before_nil (cs : List Char) : before cs [] = cs := by simp [before]

theorem leaf_of_quotedLiteral {value : LiteralValue} (h : quotedLiteral cs = some (value, [])) :
    leaf cs = some (.literal ⟨String.ofList cs, value⟩, []) := by
  have hsuffix : afterSuffix [] = [] := rfl
  rw [leaf, literalToken, h]
  simp only [hsuffix, before_nil]

/-- **The literal of a text is read as the text.** -/
theorem lex_ofText (s : String) :
    lex (Literal.ofText s).written = some [.literal (.ofText s)] := by
  have hwritten : (Literal.ofText s).written.toList =
      '"' :: ((Literal.inside s.toList).toList ++ ['"']) := by
    rw [Literal.ofText, String.toList_append, String.toList_append]
    rfl
  have hquoted : quotedLiteral (Literal.ofText s).written.toList = some (.text s, []) := by
    rw [hwritten, quotedLiteral, readQuoted_inside]
    exact congrArg (fun s => some (LiteralValue.text s, [])) String.ofList_toList
  have hleaf := leaf_of_quotedLiteral hquoted
  rw [String.ofList_toList, hwritten] at hleaf
  exact lex_of_leaf hwritten (by decide) hleaf

/-- **The literal of a character is read as the character.** -/
theorem lex_ofChar (c : Char) :
    lex (Literal.ofChar c).written = some [.literal (.ofChar c)] := by
  have hwritten : (Literal.ofChar c).written.toList =
      '\'' :: ((Quoted.char ['\''] c).toList ++ ['\'']) := by
    rw [Literal.ofChar, String.toList_append, String.toList_append]
    rfl
  have hsingle : readSingle .text ((Quoted.char ['\''] c).toList ++ ['\'']) = some (c, ['\'']) :=
    (isCharacter_char (by simp) c).readSingle ['\'']
  have hquoted : quotedLiteral (Literal.ofChar c).written.toList = some (.character c, []) := by
    rw [hwritten, quotedLiteral, hsingle]
    rfl
  have hleaf := leaf_of_quotedLiteral hquoted
  rw [String.ofList_toList, hwritten] at hleaf
  exact lex_of_leaf hwritten (by decide) hleaf

/-! ### Numbers -/

theorem startsLeaf_of_isDigit : ∀ c : Char, c.isDigit = true → StartsLeaf c :=
  Ascii.forall_isDigit (by decide)

theorem quotedLiteral_of_isDigit (h : c.isDigit = true) : quotedLiteral (c :: cs) = none := by
  unfold quotedLiteral
  split
  all_goals first
    | rfl
    | rename_i heq
      obtain rfl := (List.cons.inj heq).1
      cases h

section Digits

variable {started : Bool}

theorem dropWhile_isDigitOrGap (h : ∀ c ∈ cs, c.isDigit = true) :
    cs.dropWhile isDigitOrGap = [] := by
  rw [← List.append_nil cs, List.dropWhile_append_of_pos]
  · rfl
  · intro c hc
    rw [isDigitOrGap, h c hc, Bool.true_or]

theorem splitBase_of_isDigit (h : ∀ c ∈ cs, c.isDigit = true) : splitBase cs = (10, cs) := by
  unfold splitBase
  split
  all_goals first
    | rfl
    | exact Bool.noConfusion (h _ (List.mem_cons_of_mem _ List.mem_cons_self))

theorem beq_of_isDigit {d : Char} (hc : c.isDigit = true) (hd : d.isDigit = false) :
    (c == d) = false := by
  rw [beq_eq_false_iff_ne]
  rintro rfl
  exact Bool.noConfusion (hc.symm.trans hd)

theorem afterBaseDigits_of_isDigit (h : ∀ c ∈ cs, c.isDigit = true)
    (hstarted : started = true ∨ cs ≠ []) : afterBaseDigits 10 started cs = some [] := by
  induction cs generalizing started with
  | nil =>
    obtain rfl := hstarted.resolve_right (fun h => h rfl)
    rfl
  | cons c cs ih =>
    obtain ⟨hc, hcs⟩ := List.forall_mem_cons.mp h
    obtain ⟨v, hlt, hv⟩ := Ascii.exists_hexValue?_of_isDigit c hc
    rw [afterBaseDigits, beq_of_isDigit hc rfl, hv]
    simp only [Bool.false_eq_true, if_false, if_pos hlt]
    -- one digit is enough to have started
    exact ih hcs (.inl rfl)

/-- Digits are read as the number that they are added up to. -/
theorem wholeValue_of_isDigit {value : Nat} (h : ∀ c ∈ cs, c.isDigit = true)
    (hstarted : started = true ∨ cs ≠ []) :
    wholeValue 10 value started cs = some (cs.foldl (Ascii.addDigit 10) value, []) := by
  induction cs generalizing value started with
  | nil =>
    obtain rfl := hstarted.resolve_right (fun h => h rfl)
    rfl
  | cons c cs ih =>
    obtain ⟨hc, hcs⟩ := List.forall_mem_cons.mp h
    obtain ⟨v, hlt, hv⟩ := Ascii.exists_hexValue?_of_isDigit c hc
    have hmark : ∀ d : Char, d.isDigit = false → (c == d) = false := fun d => beq_of_isDigit hc
    rw [wholeValue, hmark '_' rfl, hmark '.' rfl, hmark 'e' rfl, hmark 'E' rfl, hc, hv]
    simp only [Bool.false_eq_true, if_false, Bool.or_self, Bool.false_and, Bool.and_false,
      Bool.true_or, if_true, if_pos hlt]
    rw [ih hcs (.inl rfl), List.foldl_cons, Ascii.addDigit, hv, Option.getD_some, Nat.mul_comm]

theorem afterNumeral_of_isDigit (h : ∀ c ∈ cs, c.isDigit = true) (hne : cs ≠ []) :
    afterNumeral cs = some [] := by
  have hdecimal : afterDecimalDigits cs = none := by
    cases cs with
    | nil => rfl
    | cons c cs =>
      obtain ⟨hc, hcs⟩ := List.forall_mem_cons.mp h
      simp [afterDecimalDigits, hc, dropWhile_isDigitOrGap hcs]
  have hwhole : afterWholeDigits cs = some [] := by
    rw [afterWholeDigits, splitBase_of_isDigit h]
    exact afterBaseDigits_of_isDigit h (.inr hne)
  rw [afterNumeral, hdecimal, hwhole]
  rfl

theorem numeralValue_of_isDigit (h : ∀ c ∈ cs, c.isDigit = true) (hne : cs ≠ []) :
    numeralValue cs = .integer (cs.foldl (Ascii.addDigit 10) 0) "" := by
  rw [numeralValue, splitBase_of_isDigit h]
  simp only [wholeValue_of_isDigit h (.inr hne)]
  rfl

end Digits

/-- **A number is read from its digits.** -/
theorem lex_toString (n : Nat) :
    lex (toString n) = some [.literal ⟨toString n, .integer n ""⟩] := by
  obtain ⟨c, cs, hcs, hdigits⟩ := exists_toList_toString n
  have hc : c.isDigit = true := hdigits c List.mem_cons_self
  have hne : c :: cs ≠ [] := List.cons_ne_nil c cs
  have hwritten : String.ofList (c :: cs) = toString n := by rw [← hcs, String.ofList_toList]
  have hvalue : numeralValue (c :: cs) = .integer n "" := by
    have htext : (toString n).toList = Nat.toDigits 10 n := Nat.toList_repr
    rw [numeralValue_of_isDigit hdigits hne, ← hcs, htext,
      Ascii.foldl_addDigit_toDigits (by decide) (by decide)]
  have hleaf : leaf (c :: cs) = some (.literal ⟨toString n, .integer n ""⟩, []) := by
    rw [leaf, literalToken, quotedLiteral_of_isDigit hc, afterNumeral_of_isDigit hdigits hne]
    simp only [Option.map_some, before_nil, hvalue, hwritten]
  exact lex_of_leaf hcs (startsLeaf_of_isDigit c hc) hleaf

end Waybill.Code
