import Waybill.Proofs.Template.Defaults
import Waybill.Proofs.Template.Filling
import Waybill.Proofs.Template.Grammar
import Waybill.Proofs.Text.Ascii

/-!
# Raw texts of templates

The raw text of a template is what its pieces are without their defaults, written one after the
other. Blanks around names are lost in it as well. It is a template again: the reader takes it apart
into the same pieces, as a name that was read holds neither a blank nor a mark, and literals are as
long as they were. So templates with the same raw text have the same pieces up to defaults, and
where values are given for all placeholders it makes no difference which of the two is filled in.

## Main definitions

* `Waybill.Template.bare`: a template without defaults, with its raw text as source.

## Main results

* `Waybill.Template.Reads.raw`: pieces are read again from their raw texts.
* `Waybill.Template.parse_raw`: the raw text is read as the template without defaults.
* `Waybill.Template.resolve_bare`: where all values are given, defaults make no difference.
* `Waybill.Template.raw_is_faithful`: these facts in one.
-/

namespace Waybill

theorem Segment.raw_bare (s : Segment) : s.bare.raw = s.raw := by
  cases s <;> rfl

namespace Template

/-! ### Names -/

theorem trim_of_forall {cs : List Char} (h : ∀ c ∈ cs, isBlank c = false) : trim cs = cs := by
  have hkept {cs : List Char} (h : ∀ c ∈ cs, isBlank c = false) : cs.dropWhile isBlank = cs := by
    cases cs with
    | nil => rfl
    | cons c cs => exact List.dropWhile_cons_of_neg (by simp [h c List.mem_cons_self])
  rw [trim, trimEnd, trimStart, hkept h, hkept fun c hc => h c (List.mem_reverse.mp hc),
    List.reverse_reverse]

theorem IsName.not_mark {cs : List Char} (h : IsName cs) {c : Char} (hc : c ∈ cs) :
    isBlank c = false ∧ c ≠ '=' ∧ c ≠ '}' := by
  rcases h.2 c hc with halphanum | rfl
  · exact Ascii.forall_isAscii
      (P := fun c => c.isAlphanum = true → isBlank c = false ∧ c ≠ '=' ∧ c ≠ '}')
      (by decide +kernel) c (Ascii.isAscii_of_isAlphanum halphanum) halphanum
  · decide

theorem IsName.denotes {cs : List Char} (h : IsName cs) :
    Denotes cs (.placeholder (String.ofList cs) none) := by
  have htrim : trim cs = cs := trim_of_forall fun c hc => (h.not_mark hc).1
  have hmark : '=' ∉ cs := fun hc => (h.not_mark hc).2.1 rfl
  have hdenotes := Denotes.placeholder (.whole hmark) (by rwa [htrim])
    (fun _ hright => nomatch hright)
  rwa [htrim] at hdenotes

theorem Denotes.exists_name {body : List Char} {segment : Segment} (h : Denotes body segment) :
    ∃ name default, segment = .placeholder (String.ofList name) default ∧ IsName name := by
  obtain ⟨hhalves, hname, hdefault⟩ := h
  exact ⟨_, _, rfl, hname⟩

/-! ### Reading raw texts -/

/-- **A piece is read again** from its raw text, without its default. -/
theorem Spells.raw {chunk : List Char} {segment : Segment} (h : Spells chunk segment) :
    Spells segment.raw.toList segment.bare := by
  cases h with
  | literal ne_nil plain =>
    rw [Segment.raw, String.toList_ofList]
    exact .literal ne_nil plain
  | group hbody hsegment =>
    obtain ⟨name, default, rfl, hname⟩ := hsegment.exists_name
    have hraw : (Segment.placeholder (String.ofList name) default).raw.toList =
        '{' :: (name ++ ['}']) := by
      simp [Segment.raw]
    rw [hraw]
    exact .group (fun hc => (hname.not_mark hc).2.2 rfl) hname.denotes

theorem noLiteralFirst_map_bare {segments : List Segment} (h : NoLiteralFirst segments) :
    NoLiteralFirst (segments.map Segment.bare) := by
  intro text hhead
  cases segments with
  | nil => cases hhead
  | cons segment rest =>
    cases segment with
    | literal other => exact h other rfl
    | placeholder name default => cases hhead

/-- **Pieces are read again** from their raw texts, without their defaults. -/
theorem Reads.raw {cs : List Char} {segments : List Segment} (h : Reads cs segments) :
    Reads (segments.flatMap (·.raw.toList)) (segments.map Segment.bare) := by
  induction h with
  | nil => exact .nil
  | @cons chunk rest segment segments hchunk hrest hnext ih =>
    refine .cons hchunk.raw ih fun text htext => ?_
    -- the first piece is a literal only if it was one before
    cases segment with
    | literal other => exact noLiteralFirst_map_bare (hnext other rfl)
    | placeholder name default => cases htext

/-- The template without defaults, read from the raw text. -/
def bare (t : Template) : Template := ⟨t.raw, t.segments.map Segment.bare⟩

theorem toList_raw (t : Template) : t.raw.toList = t.segments.flatMap (·.raw.toList) := by
  rw [raw, String.toList_join, List.flatMap_map]

theorem raw_bare (t : Template) : t.bare.raw = t.raw := by
  have hraw : Segment.raw ∘ Segment.bare = Segment.raw := funext Segment.raw_bare
  rw [raw, bare, List.map_map, hraw, raw]

/-- **The raw text is read as the template without defaults.** -/
theorem parse_raw {source : String} {t : Template} (h : parse source = .ok t) :
    parse t.raw = .ok t.bare := by
  have hreads := ((parse_eq_ok_iff source t).mp h).2.raw
  rw [← toList_raw] at hreads
  exact (parse_eq_ok_iff t.raw t.bare).mpr ⟨rfl, hreads⟩

/-- Templates have the same raw text exactly if their pieces are the same up to defaults. -/
theorem raw_eq_iff {source source' : String} {t t' : Template} (h : parse source = .ok t)
    (h' : parse source' = .ok t') :
    t.raw = t'.raw ↔ t.segments.map Segment.bare = t'.segments.map Segment.bare := by
  constructor
  · intro hraw
    have hparse := parse_raw h
    rw [hraw, parse_raw h'] at hparse
    exact congrArg segments (Except.ok.inj hparse).symm
  · intro hsegments
    rw [← raw_bare t, ← raw_bare t', raw, raw, bare, bare, hsegments]

/-! ### Filling raw texts in -/

variable {bindings : List Binding}

/-- **Where all values are given**, defaults make no difference. -/
theorem resolve_bare {t : Template} (h : ∀ name ∈ t.names, given? bindings name ≠ none) :
    t.bare.resolve bindings = t.resolve bindings := by
  refine fillAll_map_congr fun segment hsegment => ?_
  cases segment with
  | literal text => rfl
  | placeholder name default =>
    have hname : name ∈ t.names := List.mem_map_of_mem (mem_placeholders_iff.mpr hsegment)
    obtain ⟨value, hvalue⟩ := Option.ne_none_iff_exists'.mp (h name hname)
    rw [Segment.bare, fill, fill, valueOf_of_given? hvalue, valueOf_of_given? hvalue]

theorem covers_of_given? {t : Template} (h : ∀ name ∈ t.names, given? bindings name ≠ none) :
    Covers bindings t := by
  intro name hname
  obtain ⟨value, hvalue⟩ := Option.ne_none_iff_exists'.mp
    (h name (List.mem_map_of_mem (f := Prod.fst) hname))
  exact mem_of_given? hvalue

/-- **The raw text of a template is the template, up to defaults.** It is read as the same pieces
without their defaults, and is the raw text and the source of what was read. Where values are given
for all placeholders it is filled in like the template, to a path or to the refusal of dots. Two
templates have the same raw text exactly if their pieces are the same up to defaults. -/
theorem raw_is_faithful {source : String} {t : Template} (h : parse source = .ok t) :
    (∃ r, parse t.raw = .ok r ∧ r.segments = t.segments.map Segment.bare ∧ r.raw = t.raw ∧
        r.source = t.raw ∧
        ∀ bindings : List Binding, (∀ name ∈ t.names, given? bindings name ≠ none) →
          r.resolve bindings = t.resolve bindings ∧
            ((∃ path, t.resolve bindings = .ok path) ∨
              ∃ name value, t.resolve bindings = .error (.dotSegment name value))) ∧
      ∀ source' t', parse source' = .ok t' →
        (t.raw = t'.raw ↔ t.segments.map Segment.bare = t'.segments.map Segment.bare) := by
  refine ⟨⟨t.bare, parse_raw h, rfl, raw_bare t, rfl, fun bindings hgiven => ?_⟩,
    fun source' t' h' => raw_eq_iff h h'⟩
  exact ⟨resolve_bare hgiven, resolve_of_covers (covers_of_given? hgiven)⟩

/-- Blanks around a name, a default with an equals sign in it, and two placeholders side by side,
against the same pieces with another default. The value of one of them is refused. -/
theorem raw_is_faithful_of_blanks :
    ∃ t t', parse "/p\x7b\u2003id =a=b\x7d\x7bn\x7d/q=" = .ok t ∧
      parse "/p\x7bid\x7d\x7b n=1\x7d/q=" = .ok t' ∧ t.raw = t'.raw ∧
      ∃ r, parse "/p\x7bid\x7d\x7bn\x7d/q=" = .ok r ∧
        r.resolve [("n", some ".."), ("id", some "é")] =
          t.resolve [("n", some ".."), ("id", some "é")] ∧
        t.resolve [("n", some ".."), ("id", some "é")] = .error (.dotSegment "n" "..") := by
  let t : Template := ⟨"/p\x7b\u2003id =a=b\x7d\x7bn\x7d/q=", [.literal "/p",
    .placeholder "id" (some "a=b"), .placeholder "n" none, .literal "/q="]⟩
  let t' : Template := ⟨"/p\x7bid\x7d\x7b n=1\x7d/q=", [.literal "/p", .placeholder "id" none,
    .placeholder "n" (some "1"), .literal "/q="]⟩
  have h : parse "/p\x7b\u2003id =a=b\x7d\x7bn\x7d/q=" = .ok t := by decide +kernel
  have h' : parse "/p\x7bid\x7d\x7b n=1\x7d/q=" = .ok t' := by decide +kernel
  have hgiven : ∀ name ∈ t.names,
      given? [("n", some ".."), ("id", some "é")] name ≠ none := by decide
  obtain ⟨⟨r, hr, -, -, -, hresolve⟩, hraw⟩ := raw_is_faithful h
  exact ⟨t, t', h, h', (hraw _ t' h').mpr rfl, r, hr, (hresolve _ hgiven).1, by decide +kernel⟩

end Template

end Waybill
