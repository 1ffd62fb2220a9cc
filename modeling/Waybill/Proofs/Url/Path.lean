import Waybill.Proofs.Percent
import Waybill.Proofs.Text.Ascii
import Waybill.Proofs.Url.Walk

/-!
# Reading paths of the web

The text of a path is read as a walk over what stands between its separators. What is written of a
piece has no separator and nothing that the set for paths escapes, so that a path that was read is
left as it is when it is read again.

## Main definitions

* `Waybill.Url.piecesOf`: what a text of a path is cut into, as it is written.
* `Waybill.Url.IsSegment`: a segment that reading a path leaves as it is.

## Main results

* `Waybill.Url.readPathStart_web`: reading a path of the web is a walk over its pieces.
* `Waybill.Url.exists_segments_of_readPathStart`: the segments that remain are left as they are.
* `Waybill.Url.readPathStart_append`: a text behind a path that was read goes on from its segments.
-/

namespace Waybill.Url

/-- The place of a path in the schemes of the web, which is read from its first slash on. -/
def web : Site := ⟨.web, false⟩

/-- A piece of a path as it is written. -/
def writtenPiece (s : List Char) : List Char := Percent.encode pathSet (significant s)

/-- What a text is cut into where it continues a path, as it is written. -/
def piecesOf (cs : List Char) : List (List Char) :=
  (cs.splitOnP (isSeparator .web)).map writtenPiece

theorem piecesOf_ne_nil (cs : List Char) : piecesOf cs ≠ [] := by
  rw [piecesOf, Ne, List.map_eq_nil_iff]
  exact List.splitOnP_ne_nil _ cs

/-! ### The last slash of a path -/

theorem upToSlash_append (path : List Char) {s : List Char} (hs : '/' ∉ s) :
    upToSlash (path ++ '/' :: s) = path ++ ['/'] := by
  have hlost : ∀ c ∈ s, (c != '/') = true := by
    intro c hc
    rw [bne_iff_ne]
    rintro rfl
    exact hs hc
  rw [← List.singleton_append, ← List.append_assoc]
  refine (Cutting.rdropWhile_append_of_forall _ hlost).trans ?_
  exact List.rdropWhile_concat_neg (· != '/') path '/' (by decide)

theorem pastSlash_append (path : List Char) {s : List Char} (hs : '/' ∉ s) :
    pastSlash (path ++ '/' :: s) = s := by
  have hkept : ∀ c ∈ s.reverse, (c != '/') = true := by
    intro c hc
    rw [bne_iff_ne]
    rintro rfl
    exact hs (List.mem_reverse.mp hc)
  rw [pastSlash, List.reverse_append, List.reverse_cons, List.append_assoc,
    List.takeWhile_append_of_pos hkept]
  simp

theorem endsWithSlash_append (path : List Char) : web.endsWithSlash (path ++ ['/']) = true := by
  simp [Site.endsWithSlash]

theorem withSlash_append (path : List Char) : web.withSlash (path ++ ['/']) = path ++ ['/'] := by
  rw [Site.withSlash, if_pos (endsWithSlash_append path)]

/-- A step back in a path takes the last of its segments away. -/
theorem stepBack_pathText {stack : List (List Char)} (h : ∀ s ∈ stack, '/' ∉ s) (followed : Bool) :
    web.stepBack (pathText stack ++ ['/']) followed = pathText (back stack) ++ ['/'] := by
  have hpop (path : List Char) : web.pop path = upToSlash path := rfl
  have hlosing : (if web.endsWithSlash (pathText stack ++ ['/']) &&
        Site.losesSlash (pathText stack ++ ['/']) then (pathText stack ++ ['/']).dropLast
      else pathText stack ++ ['/']) =
      if Site.losesSlash (pathText stack ++ ['/']) then pathText stack
      else pathText stack ++ ['/'] := by
    rw [endsWithSlash_append, Bool.true_and, List.dropLast_concat]
  have hup : upToSlash (if Site.losesSlash (pathText stack ++ ['/']) then pathText stack
      else pathText stack ++ ['/']) = pathText (back stack) ++ ['/'] := by
    rw [Site.losesSlash, List.dropLast_concat]
    rcases stack.eq_nil_or_concat' with rfl | ⟨before, last, rfl⟩
    · rfl
    · have hlast : '/' ∉ last := h last (by simp)
      have htext : pathText (before ++ [last]) = pathText before ++ '/' :: last := by simp
      have hslash : (pathText before ++ '/' :: last).contains '/' = true := by simp
      rw [htext, hslash, pastSlash_append _ hlast, Bool.true_and, back]
      cases hdrive : startsAtDrive last with
      | true =>
        have hkept := upToSlash_append (pathText before ++ '/' :: last) List.not_mem_nil
        simpa [hdrive] using hkept
      | false => simp [hdrive, upToSlash_append _ hlast]
  rw [Site.stepBack]
  simp only [hpop, hlosing, hup, withSlash_append, ite_self]

/-! ### Reading as a walk -/

theorem write_web (d : Draft) (stretch : List Char) :
    web.write d stretch = ⟨d.before, d.segment ++ Percent.encode pathSet stretch⟩ := by
  cases stretch with
  | nil => simp [Site.write]
  | cons c cs => rfl

theorem foldl_write_web (d : Draft) (stretches : List (List Char)) :
    stretches.foldl web.write d =
      ⟨d.before, d.segment ++ Percent.encode pathSet stretches.flatten⟩ := by
  induction stretches generalizing d with
  | nil => simp
  | cons s rest ih => simp [ih, write_web]

/-- What is written of a piece does not depend on where its skipped characters stand. -/
theorem draft_web (path segment : List Char) :
    web.draft path segment = ⟨path, writtenPiece segment⟩ := by
  rw [Site.draft, foldl_write_web, Cutting.flatten_splitOnP]
  rfl

theorem place_web {stack : List (List Char)} (h : ∀ s ∈ stack, '/' ∉ s) (s : List Char)
    (followed : Bool) :
    web.place ⟨pathText stack ++ ['/'], s⟩ followed =
      (if isStep s then pathText (step stack s) ++ ['/']
        else pathText (stack ++ [s]) ++ (if followed then ['/'] else []), false) := by
  have hkind : (web.kind == SchemeKind.file) = false := rfl
  rw [Site.place, isStep, step]
  cases hdouble : isDoubleDot s with
  | true => simp [stepBack_pathText h]
  | false =>
    cases hsingle : isSingleDot s with
    | true => simp [withSlash_append]
    | false => simp [hkind, Draft.text]

theorem not_slash_of_mem_step {stack : List (List Char)} (h : ∀ s ∈ stack, '/' ∉ s)
    {s : List Char} (hs : '/' ∉ s) : ∀ t ∈ step stack s, '/' ∉ t := by
  intro t ht
  cases hstep : isStep s with
  | true => exact h t ((step_isPrefix_of_isStep stack hstep).subset ht)
  | false =>
    rw [step_of_not_isStep stack hstep] at ht
    rcases List.mem_append.mp ht with ht | ht
    · exact h t ht
    · rw [List.mem_singleton.mp ht]
      exact hs

/-- Reading segments is a walk. The invariant is that the path so far is that of the segments so
far, with a slash behind it. -/
theorem readSegments_web {stack segs : List (List Char)} (hstack : ∀ s ∈ stack, '/' ∉ s)
    (hsegs : ∀ s ∈ segs, '/' ∉ writtenPiece s) :
    web.readSegments (pathText stack ++ ['/']) segs =
      (pathText (walk stack (segs.map writtenPiece)), false) := by
  induction segs generalizing stack with
  | nil => simp [Site.readSegments, walk]
  | cons s rest ih =>
    have hs := hsegs s List.mem_cons_self
    rcases rest with _ | ⟨t, more⟩
    · rw [Site.readSegments, draft_web, place_web hstack, List.map_singleton, walk_singleton]
      split <;> simp
    · have ih := ih (not_slash_of_mem_step hstack hs)
        (fun u hu => hsegs u (List.mem_cons_of_mem _ hu))
      rw [Site.readSegments, draft_web, place_web hstack, List.map_cons, walk_cons _ _ (by simp),
        ← ih]
      · cases hstep : isStep (writtenPiece s) with
        | true => simp
        | false => simp [step_of_not_isStep _ hstep]
      · simp

/-! ### What is written of a piece -/

/-- No part of an escape is escaped, and none separates segments. -/
theorem pathSet_of_isEscapePart {c : Char} (hc : Percent.isEscapePart c = true) :
    pathSet c = false ∧ isSeparator .web c = false :=
  Ascii.forall_isAscii
    (P := fun c => Percent.isEscapePart c = true → pathSet c = false ∧ isSeparator .web c = false)
    (by decide +kernel) c (Percent.isAscii_of_isEscapePart hc) hc

theorem plain_writtenPiece (s : List Char) : Percent.Plain pathSet (writtenPiece s) :=
  Percent.plain_encode (fun _ h => h) (fun _ h => (pathSet_of_isEscapePart h).1) _

theorem not_separator_of_mem_writtenPiece {s : List Char}
    (hs : ∀ c ∈ s, isSeparator .web c = false) :
    ∀ c ∈ writtenPiece s, isSeparator .web c = false := by
  intro c hc
  obtain ⟨d, hd, hc⟩ := List.mem_flatMap.mp hc
  rcases Percent.mem_encodeChar hc with ⟨rfl, -, -⟩ | hpart
  · exact hs c (List.mem_of_mem_filter hd)
  · exact (pathSet_of_isEscapePart hpart).2

theorem not_separator_of_mem_piecesOf {cs s : List Char} (hs : s ∈ piecesOf cs) :
    ∀ c ∈ s, isSeparator .web c = false := by
  obtain ⟨t, ht, rfl⟩ := List.mem_map.mp hs
  exact not_separator_of_mem_writtenPiece fun c hc => Cutting.not_mark_of_mem_splitOnP ht hc

theorem not_slash_of_not_separator {s : List Char} (h : ∀ c ∈ s, isSeparator .web c = false) :
    '/' ∉ s := by
  intro hslash
  exact Bool.noConfusion (h '/' hslash)

/-- **Reading a path that continues a list of segments.** -/
theorem readPath_web (cs : List Char) :
    web.readPath ['/'] cs = (pathText (walk [] (piecesOf cs)), false) := by
  have hslash : ∀ s ∈ cs.splitOnP (isSeparator .web), '/' ∉ writtenPiece s := by
    intro s hs
    have hpiece : writtenPiece s ∈ piecesOf cs := List.mem_map_of_mem hs
    exact not_slash_of_not_separator (not_separator_of_mem_piecesOf hpiece)
  have hnone : ∀ s ∈ ([] : List (List Char)), '/' ∉ s := by simp
  have hread := readSegments_web hnone hslash
  rw [Site.readPath, show (['/'] : List Char) = pathText [] ++ ['/'] from rfl]
  simp only [show web.kind = SchemeKind.web from rfl, hread]
  rfl

/-- The text of a path without the separator at its start. -/
def pastRoot (cs : List Char) : List Char :=
  match next? cs with
  | some (c, rest) => if isSeparator .web c then rest else cs
  | none => cs

/-- **Reading a path of the web is a walk over its pieces.** -/
theorem readPathStart_web (cs : List Char) :
    web.readPathStart cs = (pathText (walk [] (piecesOf (pastRoot cs))), false) := by
  rw [← readPath_web, Site.readPathStart, pastRoot]
  cases next? cs <;> rfl

/-! ### Paths that were read -/

/-- A segment that reading a path leaves as it is. -/
structure IsSegment (s : List Char) : Prop where
  plain : Percent.Plain pathSet s
  not_separator : ∀ c ∈ s, isSeparator .web c = false
  not_step : isStep s = false

theorem IsSegment.not_slash {s : List Char} (h : IsSegment s) : '/' ∉ s :=
  not_slash_of_not_separator h.not_separator

theorem isSegment_nil : IsSegment [] := ⟨by simp [Percent.Plain], by simp, rfl⟩

theorem isSegment_of_mem_piecesOf {cs s : List Char} (hs : s ∈ piecesOf cs)
    (hstep : isStep s = false) : IsSegment s := by
  refine ⟨?_, not_separator_of_mem_piecesOf hs, hstep⟩
  obtain ⟨t, -, rfl⟩ := List.mem_map.mp hs
  exact plain_writtenPiece t

/-- **The segments that remain of a path** are left as they are when it is read again. -/
theorem exists_segments_of_readPathStart (cs : List Char) :
    ∃ segs, segs ≠ [] ∧ (∀ s ∈ segs, IsSegment s) ∧
      (web.readPathStart cs).1 = pathText segs := by
  rw [readPathStart_web]
  refine ⟨_, walk_ne_nil [], ?_, rfl⟩
  intro s hs
  have hbehind : s ∈ (walk [] (piecesOf (pastRoot cs))).drop 0 := hs
  rcases mem_drop_walk hbehind with hs | rfl | ⟨hs, hstep⟩
  · cases hs
  · exact isSegment_nil
  · exact isSegment_of_mem_piecesOf hs hstep

theorem pathSet_of_isSkipped {c : Char} (hc : isSkipped c = true) : pathSet c = true := by
  simp only [isSkipped, Bool.or_eq_true, beq_iff_eq] at hc
  rcases hc with (rfl | rfl) | rfl <;> decide

theorem significant_of_plain {s : List Char} (h : Percent.Plain pathSet s) :
    significant s = s := by
  rw [significant, List.filter_eq_self]
  intro c hc
  rw [Bool.not_eq_true', Bool.eq_false_iff]
  intro hskipped
  exact h.not_mem (pathSet_of_isSkipped hskipped) hc

theorem writtenPiece_of_plain {s : List Char} (h : Percent.Plain pathSet s) :
    writtenPiece s = s := by
  rw [writtenPiece, significant_of_plain h, Percent.encode_eq_self h]

theorem plain_pathText {segs : List (List Char)} (h : ∀ s ∈ segs, Percent.Plain pathSet s) :
    Percent.Plain pathSet (pathText segs) := by
  intro c hc
  obtain ⟨s, hs, hc⟩ := List.mem_flatMap.mp hc
  rcases List.mem_cons.mp hc with rfl | hc
  · decide
  · exact h s hs c hc

/-- **A text behind a path that was read** goes on from its segments. -/
theorem readPathStart_append {trunk : List (List Char)} (htrunk : ∀ s ∈ trunk, IsSegment s)
    (cs : List Char) :
    web.readPathStart (pathText trunk ++ '/' :: cs) =
      (pathText (walk trunk (piecesOf cs)), false) := by
  have htext : pathText trunk ++ '/' :: cs = pathText (trunk ++ [cs]) := by simp
  have hne : trunk ++ [cs] ≠ [] := by simp
  obtain ⟨rest, hrest⟩ := exists_cons_of_pathText hne
  have hcut : rest.splitOnP (isSeparator .web) = trunk ++ cs.splitOnP (isSeparator .web) := by
    have hclean : trunk.flatMap (·.splitOnP (isSeparator .web)) = trunk :=
      flatMap_splitOnP_of_forall fun s hs => (htrunk s hs).not_separator
    rw [splitOnP_of_pathText rfl hrest, List.flatMap_append, hclean, List.flatMap_singleton]
  have hpieces : piecesOf rest = trunk ++ piecesOf cs := by
    have hsame : trunk.map writtenPiece = trunk :=
      (List.map_congr_left fun s hs => writtenPiece_of_plain (htrunk s hs).plain).trans
        (List.map_id trunk)
    rw [piecesOf, hcut, List.map_append, hsame, piecesOf]
  rw [htext, hrest, readPathStart_web, show pastRoot ('/' :: rest) = rest from rfl, hpieces,
    walk_append [] (piecesOf_ne_nil cs), foldl_step_of_forall [] fun s hs => (htrunk s hs).not_step,
    List.nil_append]

end Waybill.Url
