import Waybill.Datum.Argument
import Waybill.Proofs.Json.PlainKeys

/-!
# Optional values

A body may hold no value: it is decoded along the optional schema, unless there is nothing but white
space in it. Such a schema looks at a tree once, to see whether it is a null, and a body gives the
tree of a null only if `n` is its first byte behind white space. So wherever another byte stands
there, the result is that of the schema itself, a failure with its path and its wording included.

## Main definitions

* `Waybill.Ascii.whiteSpace`: the bytes of white space.

## Main results

* `Waybill.Json.exists_of_parse_eq_null`, `Waybill.Json.parse_null`: which bodies are a null.
* `Waybill.KeyStrategy.decode_optional`: a body that is no null.
* `Waybill.KeyStrategy.decode_ne_ok_of_whiteSpace`,
  `Waybill.KeyStrategy.decodeOptional_map_ofOption`: optional values where a value of the optional
  schema is required.
* `Waybill.KeyStrategy.decodeOptional_extends_decode`: no value, a null, and all other bodies.
-/

namespace Waybill

namespace Ascii

/-- Tab, line feed, form feed, carriage return and space. -/
def whiteSpace : List UInt8 := [0x09, 0x0A, 0x0C, 0x0D, 0x20]

theorem isBlankByte_iff {b : UInt8} : isBlankByte b = true ↔ b ∈ whiteSpace := by
  simp only [isBlankByte, whiteSpace, Bool.or_eq_true, beq_iff_eq, List.mem_cons, List.not_mem_nil,
    or_false]
  tauto

end Ascii

namespace Json

/-! ### Nulls -/

theorem isBlankByte_of_isBlank {b : UInt8} (h : isBlank b = true) : Ascii.isBlankByte b = true := by
  simp only [isBlank, Bool.or_eq_true, beq_iff_eq] at h
  rcases h with ((rfl | rfl) | rfl) | rfl
  all_goals rfl

theorem parse_append {before : List UInt8} (hbefore : IsBlanks before) {b : UInt8}
    (hb : isBlank b = false) (rest : List UInt8) :
    ∃ fuel, Tree.parse (before ++ b :: rest) = valueAt fuel ⟨before.length, b :: rest⟩ := by
  refine ⟨2 * (before ++ b :: rest).length + 1, ?_⟩
  rw [Tree.parse, readValue_succ, skipBlanks_append hbefore (stops_cons.mpr hb), Nat.zero_add]

theorem wordValue_ne_null {c : Cursor} {letters : List UInt8} {tree : Nat → Tree}
    (h : ∀ n start stop, tree n ≠ .null start stop) (start stop : Nat) :
    (wordValue c letters tree).1 ≠ .null start stop := by
  unfold wordValue
  split
  · exact h _ start stop
  · rintro ⟨⟩

theorem valueAt_ne_null {fuel : Nat} {c : Cursor} (h : ∀ b ∈ c.rest.head?, b ≠ 0x6E)
    (start stop : Nat) : (valueAt fuel c).1 ≠ .null start stop := by
  unfold valueAt
  split
  case h_1 => rintro ⟨⟩
  case h_2 b rest hrest =>
    rw [hrest] at h
    rw [if_neg (mt eq_of_beq (h b rfl))]
    split
    · exact wordValue_ne_null (by simp) start stop
    split
    · exact wordValue_ne_null (by simp) start stop
    split_ifs
    all_goals rintro ⟨⟩

/-- A body with the tree of a null has `n` as its first byte that is no blank. -/
theorem exists_of_parse_eq_null {body : List UInt8} {start stop : Nat}
    (h : (Tree.parse body).1 = .null start stop) :
    ∃ before rest, IsBlanks before ∧ body = before ++ 0x6E :: rest := by
  obtain ⟨before, hbefore, hbody, -⟩ := exists_blanks ⟨0, body⟩
  rw [Tree.parse, readValue_succ] at h
  by_cases hfirst : ∀ b ∈ (⟨0, body⟩ : Cursor).skipBlanks.rest.head?, b ≠ 0x6E
  · exact absurd h (valueAt_ne_null hfirst start stop)
  · simp only [not_forall, not_not, exists_prop] at hfirst
    obtain ⟨b, hb, rfl⟩ := hfirst
    obtain ⟨rest, hrest⟩ := List.head?_eq_some_iff.mp hb
    exact ⟨before, rest, hbefore, hrest ▸ hbody⟩

/-- The first byte that is no white space is one byte. -/
theorem eq_of_append_eq_append {before before' rest rest' : List UInt8} {b b' : UInt8}
    (hbefore : ∀ x ∈ before, Ascii.isBlankByte x = true) (hb : Ascii.isBlankByte b = false)
    (hbefore' : ∀ x ∈ before', Ascii.isBlankByte x = true) (hb' : Ascii.isBlankByte b' = false)
    (h : before ++ b :: rest = before' ++ b' :: rest') : b = b' := by
  have hdrop := congrArg (List.dropWhile Ascii.isBlankByte) h
  rw [List.dropWhile_append_of_pos hbefore, List.dropWhile_append_of_pos hbefore',
    List.dropWhile_cons_of_neg (by rw [hb]; exact Bool.false_ne_true),
    List.dropWhile_cons_of_neg (by rw [hb']; exact Bool.false_ne_true)] at hdrop
  exact (List.cons.inj hdrop).1

/-- A null with blanks around it. -/
theorem parse_null {before : List UInt8} (hbefore : IsBlanks before) (after : List UInt8) :
    Tree.parse (before ++ 0x6E :: ([0x75, 0x6C, 0x6C] ++ after)) =
      (.null before.length (before.length + 1 + 3), some ⟨before.length + 1 + 3, after⟩) := by
  obtain ⟨fuel, hparse⟩ :=
    parse_append hbefore (by decide : isBlank 0x6E = false) ([0x75, 0x6C, 0x6C] ++ after)
  have hword : valueAt fuel ⟨before.length, 0x6E :: ([0x75, 0x6C, 0x6C] ++ after)⟩ =
      wordValue ⟨before.length, 0x6E :: ([0x75, 0x6C, 0x6C] ++ after)⟩ [0x75, 0x6C, 0x6C]
        (.null before.length ·) := rfl
  rw [hparse, hword, wordValue, advance_cons, readWord_append]
  rfl

/-- White space alone has the tree of a text that is broken where a value should start. -/
theorem exists_parse_eq_broken {body : List UInt8} (h : ∀ b ∈ body, b ∈ Ascii.whiteSpace) :
    ∃ start fault, (Tree.parse body).1 = .broken start fault := by
  obtain ⟨before, -, hbody, hstops⟩ := exists_blanks ⟨0, body⟩
  rw [Tree.parse, readValue_succ]
  unfold valueAt
  split
  case h_1 => exact ⟨_, _, rfl⟩
  case h_2 b rest hrest =>
    -- the one byte of white space that is no blank of JSON
    have hfeed : b = 0x0C := by
      rw [hrest] at hbody hstops
      have hbody : body = before ++ b :: rest := hbody
      have hmem : b ∈ Ascii.whiteSpace := h b (by simp [hbody])
      have hblank := stops_cons.mp hstops
      simp only [Ascii.whiteSpace, List.mem_cons, List.not_mem_nil, or_false] at hmem
      rcases hmem with rfl | rfl | rfl | rfl | rfl
      all_goals first | rfl | cases hblank
    subst hfeed
    exact ⟨_, _, rfl⟩

theorem exists_eq_null_of_json {tree : Tree} {depth : Nat} (h : tree.json depth = .ok .null) :
    ∃ start stop, tree = .null start stop := by
  cases yields_of_json h with
  | null start stop => exact ⟨start, stop, rfl⟩

theorem tree_camelKeys_ne_null {j : Json} (h : j ≠ .null) (start stop : Nat) :
    (camelKeys j).tree ≠ .null start stop := by
  cases j with
  | null => exact absurd rfl h
  | boolean | number | text | array | object => rintro ⟨⟩

end Json

open Json

/-! ### Schemas -/

/-- What is no null decodes along an optional schema as it does along the schema itself. -/
theorem Schema.decoder_optional {tree : Tree} (h : ∀ start stop, tree ≠ .null start stop)
    (schema : Schema) (walk : Walk) :
    (Schema.optional schema).decoder walk tree = (schema.decoder walk tree).map .present := by
  cases tree with
  | null start stop => exact absurd rfl (h start stop)
  | boolean | number | text | array | object | broken => rfl

theorem Schema.decoder_broken_ne_ok (schema : Schema) (walk : Walk) (start : Nat) (fault : Fault)
    (d : Datum) : schema.decoder walk (.broken start fault) ≠ .ok d := by
  induction schema using Schema.induction generalizing d with
  | any => rintro ⟨⟩
  | optional value ih =>
    intro h
    obtain ⟨d', hd', -⟩ := map_eq_ok_iff.mp h
    exact ih d' hd'
  | boolean | integer | double | character | text | unit | list | tuple | map | record =>
    exact mismatch_ne_ok _ _ _

theorem Schema.absent_or_present_of_decoder {schema : Schema} {walk : Walk} {tree : Tree}
    {d : Datum} (h : (Schema.optional schema).decoder walk tree = .ok d) :
    d = .absent ∨ ∃ d', d = .present d' := by
  rcases Schema.decoder_optional_eq_ok_iff.mp h with ⟨_, _, -, rfl⟩ | ⟨-, d', -, rfl⟩
  · exact .inl rfl
  · exact .inr ⟨d', rfl⟩

namespace KeyStrategy

/-! ### Bodies -/

/-- A body that is no null decodes along an optional schema as it does along the schema itself. -/
theorem decode?_optional {body : List UInt8}
    (h : ∀ start stop, (Tree.parse body).1 ≠ .null start stop) (keys : KeyStrategy)
    (schema : Schema) :
    keys.decode? (.optional schema) body = (keys.decode? schema body).map .present := by
  cases keys with
  | asIs => exact Schema.decoder_optional h schema _
  | fromSnakeCase =>
    unfold decode?
    cases hparse : Json.parse body with
    | error f => rfl
    | ok j =>
      have hnull : j ≠ .null := by
        rintro rfl
        obtain ⟨start, stop, htree⟩ := exists_eq_null_of_json (parse_eq_ok_iff.mp hparse).1
        exact h start stop htree
      simp only [Schema.decoder_optional (tree_camelKeys_ne_null hnull)]
      cases schema.decoder ⟨depthLimit, false⟩ (camelKeys j).tree with
      | error f => rfl
      | ok d => rfl

theorem decode_optional {body : List UInt8}
    (h : ∀ start stop, (Tree.parse body).1 ≠ .null start stop) (keys : KeyStrategy)
    (schema : Schema) :
    keys.decode (.optional schema) body = (keys.decode schema body).map .present := by
  rw [decode, decode, decode?_optional h]
  cases keys.decode? schema body with
  | error f => rfl
  | ok d => rfl

theorem decodeOptional_of_whiteSpace {body : List UInt8} (h : ∀ b ∈ body, b ∈ Ascii.whiteSpace)
    (keys : KeyStrategy) (schema : Schema) : keys.decodeOptional schema body = .ok none :=
  if_pos (List.all_eq_true.mpr fun b hb => Ascii.isBlankByte_iff.mpr (h b hb))

/-- A byte that is no white space is enough for a body to be decoded. -/
theorem decodeOptional_of_mem {body : List UInt8} {b : UInt8} (hb : b ∈ body)
    (hblank : Ascii.isBlankByte b = false) (keys : KeyStrategy) (schema : Schema) :
    keys.decodeOptional schema body = match keys.decode (.optional schema) body with
      | .error e => .error e
      | .ok (.present d) => .ok (some d)
      | .ok _ => .ok none := by
  refine if_neg fun hall => ?_
  rw [List.all_eq_true.mp hall b hb] at hblank
  cases hblank

/-- White space alone decodes to nothing where a value is required. -/
theorem decode_ne_ok_of_whiteSpace {body : List UInt8} (h : ∀ b ∈ body, b ∈ Ascii.whiteSpace)
    (keys : KeyStrategy) (schema : Schema) (d : Datum) : keys.decode schema body ≠ .ok d := by
  obtain ⟨start, fault, hbroken⟩ := exists_parse_eq_broken h
  cases keys with
  | asIs =>
    rw [Ne, decode_asIs_eq_ok_iff, hbroken]
    exact schema.decoder_broken_ne_ok _ start fault d
  | fromSnakeCase =>
    rw [Ne, decode_fromSnakeCase_eq_ok_iff]
    rintro ⟨j, hj, -⟩
    have hjson := (parse_eq_ok_iff.mp hj).1
    rw [hbroken] at hjson
    cases hjson

theorem absent_or_present_of_decode {keys : KeyStrategy} {schema : Schema} {body : List UInt8}
    {d : Datum} (h : keys.decode (.optional schema) body = .ok d) :
    d = .absent ∨ ∃ d', d = .present d' := by
  cases keys with
  | asIs => exact Schema.absent_or_present_of_decoder (decode_asIs_eq_ok_iff.mp h)
  | fromSnakeCase =>
    obtain ⟨j, -, hj⟩ := decode_fromSnakeCase_eq_ok_iff.mp h
    exact Schema.absent_or_present_of_decoder hj

/-- Where there is more than white space, a value that may be missing is decoded like a value of the
optional schema. -/
theorem decodeOptional_map_ofOption {body : List UInt8} (h : ¬∀ b ∈ body, b ∈ Ascii.whiteSpace)
    (keys : KeyStrategy) (schema : Schema) :
    (keys.decodeOptional schema body).map Datum.ofOption = keys.decode (.optional schema) body := by
  simp only [not_forall, exists_prop] at h
  obtain ⟨b, hb, hmem⟩ := h
  have hblank : Ascii.isBlankByte b = false :=
    Bool.eq_false_iff.mpr (mt Ascii.isBlankByte_iff.mp hmem)
  rw [decodeOptional_of_mem hb hblank]
  cases hdecode : keys.decode (.optional schema) body with
  | error e => rfl
  | ok d =>
    rcases absent_or_present_of_decode hdecode with rfl | ⟨d', rfl⟩ <;> rfl

theorem decodeOptional_null {before after : List UInt8} (hbefore : IsBlanks before)
    (hafter : IsBlanks after) (keys : KeyStrategy) (schema : Schema) :
    keys.decodeOptional schema (before ++ 0x6E :: ([0x75, 0x6C, 0x6C] ++ after)) = .ok none := by
  have hparse := parse_null hbefore after
  have hdecode : keys.decode (.optional schema)
      (before ++ 0x6E :: ([0x75, 0x6C, 0x6C] ++ after)) = .ok .absent := by
    cases keys with
    | asIs =>
      rw [decode_asIs_eq_ok_iff, hparse]
      rfl
    | fromSnakeCase =>
      refine decode_fromSnakeCase_eq_ok_iff.mpr ⟨.null, parse_eq_ok_iff.mpr ?_, rfl⟩
      rw [hparse]
      exact ⟨rfl, by simpa using hafter⟩
  have hmem : (0x6E : UInt8) ∈ before ++ 0x6E :: ([0x75, 0x6C, 0x6C] ++ after) := by simp
  rw [decodeOptional_of_mem hmem (by decide), hdecode]

/-- A body that starts with another byte than `n` decodes as it does where a value is required. -/
theorem decodeOptional_append {before : List UInt8} (hbefore : ∀ x ∈ before, x ∈ Ascii.whiteSpace)
    {b : UInt8} (hb : b ∉ Ascii.whiteSpace) (hn : b ≠ 0x6E) (rest : List UInt8)
    (keys : KeyStrategy) (schema : Schema) :
    keys.decodeOptional schema (before ++ b :: rest) =
      (keys.decode schema (before ++ b :: rest)).map some := by
  have hblank : Ascii.isBlankByte b = false :=
    Bool.eq_false_iff.mpr (mt Ascii.isBlankByte_iff.mp hb)
  have hnull : ∀ start stop, (Tree.parse (before ++ b :: rest)).1 ≠ .null start stop := by
    intro start stop h
    -- White space has one byte more than the blanks of JSON, but neither goes past the `n`.
    obtain ⟨blanks, rest', hblanks, hbody⟩ := exists_of_parse_eq_null h
    exact hn (eq_of_append_eq_append (fun x hx => Ascii.isBlankByte_iff.mpr (hbefore x hx)) hblank
      (fun x hx => isBlankByte_of_isBlank (hblanks x hx)) (by decide) hbody)
  rw [decodeOptional_of_mem (by simp) hblank, decode_optional hnull]
  cases keys.decode schema (before ++ b :: rest) with
  | error e => rfl
  | ok d => rfl

/-- **Optional decoding extends required decoding.** A body of nothing but white space holds no
value, and neither does a null with blanks around it. Every body whose first byte behind white space
is not `n` decodes as it does where a value is required, failures included. -/
theorem decodeOptional_extends_decode (keys : KeyStrategy) (schema : Schema) (body : List UInt8) :
    ((∀ b ∈ body, b ∈ Ascii.whiteSpace) → keys.decodeOptional schema body = .ok none) ∧
      (∀ before after, IsBlanks before → IsBlanks after →
        body = before ++ [0x6E, 0x75, 0x6C, 0x6C] ++ after →
          keys.decodeOptional schema body = .ok none) ∧
      ∀ before b rest, body = before ++ b :: rest → (∀ x ∈ before, x ∈ Ascii.whiteSpace) →
        b ∉ Ascii.whiteSpace → b ≠ 0x6E →
          keys.decodeOptional schema body = (keys.decode schema body).map some := by
  refine ⟨fun h => decodeOptional_of_whiteSpace h keys schema, ?_, ?_⟩
  · rintro before after hbefore hafter rfl
    rw [List.append_assoc]
    exact decodeOptional_null hbefore hafter keys schema
  · rintro before b rest rfl hbefore hb hn
    exact decodeOptional_append hbefore hb hn rest keys schema

/-- A record with a small number. -/
def countSchema : Schema := .record "Count" false [("aB", none, .integer (.unsigned 8))]

/-- The bytes of an object that is no such record, behind a line feed. -/
def flagBody : List UInt8 :=
  [0x0A, 0x7B, 0x22, 0x61, 0x5F, 0x62, 0x22, 0x3A, 0x74, 0x72, 0x75, 0x65, 0x7D]

/-- A form feed is white space, but no blank of JSON; a failure has its path. -/
theorem decodeOptional_extends_decode_of_records :
    asIs.decodeOptional countSchema [0x20, 0x0C] = .ok none ∧
      fromSnakeCase.decodeOptional countSchema [0x09, 0x6E, 0x75, 0x6C, 0x6C, 0x0A] = .ok none ∧
      fromSnakeCase.decode countSchema flagBody =
        .error ⟨"aB", "invalid type: boolean `true`, expected u8"⟩ ∧
      fromSnakeCase.decodeOptional countSchema flagBody =
        (fromSnakeCase.decode countSchema flagBody).map some :=
  ⟨(decodeOptional_extends_decode _ _ _).1 (Ascii.forall_mem_of_all (by decide)),
    (decodeOptional_extends_decode _ _ _).2.1 [0x09] [0x0A] (by decide) (by decide) rfl,
    by with_unfolding_all rfl,
    (decodeOptional_extends_decode _ _ _).2.2 [0x0A] 0x7B _ rfl
      (Ascii.forall_mem_of_all (by decide)) (by decide) (by decide)⟩

end KeyStrategy

end Waybill
