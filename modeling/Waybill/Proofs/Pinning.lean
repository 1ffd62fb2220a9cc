import Waybill.Pinning
import Waybill.Proofs.Steps
import Waybill.Proofs.Text.Base64

/-!
# Fingerprints and pins

A policy is read from texts that are each the base64 form of thirty-two bytes. What a chain has to
have is then a certificate whose digest has one of these texts as its form, in a mode that says
which certificates of the chain are looked at. So only the set of the texts and the set of the
certificates matter, and more texts admit more chains.

## Main definitions

* `Waybill.PinningPolicy.IsFingerprint`: the texts that are read.
* `Waybill.PinningPolicy.presented`: the certificates that a mode looks at.

## Main results

* `Waybill.Digest.length_sha256`: the length of a digest.
* `Waybill.PinningPolicy.ofTexts_eq_ok_iff`, `Waybill.PinningPolicy.ofTexts_eq_error_iff`: which
  texts give a policy, and the first text that does not.
* `Waybill.PinningPolicy.admits_iff_of_ofTexts`: which chains a policy admits.
* `Waybill.PinningPolicy.pins_are_exact`: all of it.
-/

namespace Waybill

namespace Digest

theorem length_bytesOf (count n : Nat) : (bytesOf count n).length = count := by
  induction count generalizing n with
  | zero => rfl
  | succ count ih => rw [bytesOf, List.length_append, ih, List.length_singleton]

/-- A digest has thirty-two bytes. -/
theorem length_sha256 (message : List UInt8) : (sha256 message).length = 32 := by
  simp [sha256, State.bytes, length_bytesOf]

end Digest

namespace PinningPolicy

/-! ### Texts -/

/-- A text that is the base64 form of thirty-two bytes. -/
def IsFingerprint (text : String) : Prop :=
  ∃ digest : List UInt8, digest.length = 32 ∧ Base64.IsForm digest text.toList

theorem readFingerprint_eq_ok_iff {text : String} {digest : List UInt8} :
    readFingerprint text = .ok digest ↔
      digest.length = 32 ∧ Base64.IsForm digest text.toList := by
  rw [← Base64.decode?_eq_some_iff, readFingerprint]
  split
  case h_1 found hfound =>
    rw [hfound, Option.some.injEq]
    split
    case isTrue hlength =>
      rw [Except.ok.injEq]
      constructor
      · rintro rfl
        exact ⟨eq_of_beq hlength, rfl⟩
      · exact fun h => h.2
    case isFalse hlength =>
      constructor
      · rintro ⟨⟩
      · rintro ⟨h, rfl⟩
        exact absurd (beq_iff_eq.mpr h) hlength
  case h_2 hnone =>
    rw [hnone]
    constructor
    · rintro ⟨⟩
    · rintro ⟨-, ⟨⟩⟩

theorem isFingerprint_iff {text : String} :
    IsFingerprint text ↔ ∃ digest, readFingerprint text = .ok digest :=
  exists_congr fun _ => readFingerprint_eq_ok_iff.symm

/-- A text that is not read is what the error is about. -/
theorem readFingerprint_eq_error_iff {text : String} {e : PinningError} :
    readFingerprint text = .error e ↔ ¬IsFingerprint text ∧ e = .invalidFingerprint text := by
  have herror : ∀ e', readFingerprint text = .error e' → e' = .invalidFingerprint text := by
    intro e' h
    unfold readFingerprint at h
    split at h
    · split at h
      · cases h
      · exact (Except.error.inj h).symm
    · exact (Except.error.inj h).symm
  rw [isFingerprint_iff]
  constructor
  · intro h
    refine ⟨?_, herror e h⟩
    rintro ⟨digest, hdigest⟩
    rw [h] at hdigest
    cases hdigest
  · rintro ⟨hnone, rfl⟩
    cases h : readFingerprint text with
    | ok digest => exact absurd ⟨digest, h⟩ hnone
    | error e' => rw [herror e' h]

theorem readFingerprints_eq_mapM (texts : List String) :
    readFingerprints texts = texts.mapM readFingerprint := by
  induction texts with
  | nil => rfl
  | cons text texts ih =>
    rw [readFingerprints, List.mapM_cons, ih]
    rfl

/-! ### Policies -/

theorem ofTexts_of_ne_nil {texts : List String} (h : texts ≠ []) (mode : PinningMode) :
    ofTexts mode texts = (texts.mapM readFingerprint).map (⟨mode, ·⟩) := by
  rw [ofTexts, readFingerprints_eq_mapM]
  cases hdigests : texts.mapM readFingerprint with
  | error e => rfl
  | ok digests =>
    cases digests with
    | nil => exact absurd (List.forall₂_nil_right_iff.mp (Steps.mapM_eq_ok_iff.mp hdigests)) h
    | cons digest digests => rfl

/-- A policy has the digests of the texts, of which there is at least one. -/
theorem ofTexts_eq_ok_iff {mode : PinningMode} {texts : List String} {policy : PinningPolicy} :
    ofTexts mode texts = .ok policy ↔ texts ≠ [] ∧ policy.mode = mode ∧
      List.Forall₂ (fun text digest => digest.length = 32 ∧ Base64.IsForm digest text.toList)
        texts policy.digests := by
  simp only [← readFingerprint_eq_ok_iff]
  by_cases hempty : texts = []
  · subst hempty
    constructor
    · rintro ⟨⟩
    · rintro ⟨hne, -⟩
      exact absurd rfl hne
  rw [← Steps.mapM_eq_ok_iff, ofTexts_of_ne_nil hempty]
  cases texts.mapM readFingerprint with
  | error e =>
    constructor
    · rintro ⟨⟩
    · rintro ⟨-, -, ⟨⟩⟩
  | ok digests =>
    constructor
    · intro h
      obtain rfl := Except.ok.inj h
      exact ⟨hempty, rfl, rfl⟩
    · rintro ⟨-, rfl, h⟩
      rw [Except.ok.inj h]
      rfl

/-- What is wrong is that there is no text, or else the first text that is not read. -/
theorem ofTexts_eq_error_iff {mode : PinningMode} {texts : List String} {e : PinningError} :
    ofTexts mode texts = .error e ↔ texts = [] ∧ e = .noFingerprint ∨
      ∃ before text rest, texts = before ++ text :: rest ∧ (∀ t ∈ before, IsFingerprint t) ∧
        ¬IsFingerprint text ∧ e = .invalidFingerprint text := by
  by_cases hempty : texts = []
  · subst hempty
    constructor
    · exact fun h => .inl ⟨rfl, (Except.error.inj h).symm⟩
    · rintro (⟨-, rfl⟩ | ⟨before, text, rest, h, -⟩)
      · rfl
      · exact absurd h.symm (List.append_ne_nil_of_right_ne_nil before (List.cons_ne_nil text rest))
  have hmap : ofTexts mode texts = .error e ↔ texts.mapM readFingerprint = .error e := by
    rw [ofTexts_of_ne_nil hempty]
    cases texts.mapM readFingerprint with
    | error e' =>
      exact ⟨fun h => congrArg _ (Except.error.inj h), fun h => congrArg _ (Except.error.inj h)⟩
    | ok digests =>
      constructor
      all_goals rintro ⟨⟩
  rw [hmap, Steps.mapM_eq_error_iff]
  simp only [hempty, false_and, false_or, isFingerprint_iff, readFingerprint_eq_error_iff]

/-- Texts give a policy if there is one and each is the form of a digest. -/
theorem exists_ofTexts_iff {mode : PinningMode} {texts : List String} :
    (∃ policy, ofTexts mode texts = .ok policy) ↔
      texts ≠ [] ∧ ∀ text ∈ texts, IsFingerprint text := by
  constructor
  · rintro ⟨policy, h⟩
    obtain ⟨hne, -, hdigests⟩ := ofTexts_eq_ok_iff.mp h
    refine ⟨hne, fun text htext => ?_⟩
    obtain ⟨digest, -, hdigest⟩ := Steps.exists_of_mem_left hdigests htext
    exact ⟨digest, hdigest⟩
  · rintro ⟨hne, htexts⟩
    obtain ⟨digests, hdigests⟩ := Steps.exists_forall₂ htexts
    exact ⟨⟨mode, digests⟩, ofTexts_eq_ok_iff.mpr ⟨hne, rfl, hdigests⟩⟩

theorem existsUnique_text {digest : List UInt8} (h : digest.length = 32) (mode : PinningMode) :
    ∃! text, ofTexts mode [text] = .ok ⟨mode, [digest]⟩ := by
  have hread (text : String) : ofTexts mode [text] = .ok ⟨mode, [digest]⟩ ↔
      text = Base64.encode digest := by
    rw [ofTexts_eq_ok_iff]
    simp only [List.forall₂_cons, List.Forall₂.nil, h, Base64.isForm_iff, ne_eq, List.cons_ne_nil,
      not_false_eq_true, true_and, and_true]
    rw [Base64.encode, ← String.toList_inj, String.toList_ofList]
  exact ⟨Base64.encode digest, (hread _).mpr rfl, fun text htext => (hread text).mp htext⟩

/-! ### Chains -/

/-- The certificates of a chain that a mode looks at. -/
def presented (mode : PinningMode) (own : List UInt8) (others : List (List UInt8)) :
    List (List UInt8) :=
  match mode with
  | .certificate => [own]
  | .authority => own :: others

theorem admits_iff {policy : PinningPolicy} {own : List UInt8} {others : List (List UInt8)} :
    policy.admits own others = true ↔
      ∃ c ∈ presented policy.mode own others, Digest.sha256 c ∈ policy.digests := by
  obtain ⟨mode, digests⟩ := policy
  cases mode with
  | certificate => simp [admits, presented, isPinned]
  | authority => simp [admits, presented, isPinned]

/-- **Which chains a policy admits**: those with a certificate whose digest has one of the texts as
its form, among the certificates that the mode looks at. -/
theorem admits_iff_of_ofTexts {mode : PinningMode} {texts : List String} {policy : PinningPolicy}
    (h : ofTexts mode texts = .ok policy) (own : List UInt8) (others : List (List UInt8)) :
    policy.admits own others = true ↔ ∃ c ∈ presented mode own others,
      ∃ text ∈ texts, Base64.IsForm (Digest.sha256 c) text.toList := by
  obtain ⟨-, rfl, hdigests⟩ := ofTexts_eq_ok_iff.mp h
  rw [admits_iff]
  refine exists_congr fun c => and_congr_right fun _ => ⟨fun hmem => ?_, ?_⟩
  · obtain ⟨text, htext, -, hform⟩ := Steps.exists_of_mem_right hdigests hmem
    exact ⟨text, htext, hform⟩
  · rintro ⟨text, htext, hform⟩
    obtain ⟨digest, hdigest, -, hform'⟩ := Steps.exists_of_mem_left hdigests htext
    rw [← Base64.decode?_eq_some_iff] at hform hform'
    rwa [Option.some.inj (hform.symm.trans hform')]

theorem isForm_fingerprint_iff {digest c : List UInt8} :
    Base64.IsForm digest (fingerprint c).toList ↔ Digest.sha256 c = digest := by
  rw [← Base64.decode?_eq_some_iff, Base64.decode?, fingerprint, Base64.encode,
    String.toList_ofList, Base64.decodeChars_encodeBytes, Option.some.injEq]

theorem isFingerprint_fingerprint (c : List UInt8) : IsFingerprint (fingerprint c) :=
  ⟨_, Digest.length_sha256 c, isForm_fingerprint_iff.mpr rfl⟩

theorem exists_mem_presented_iff {mode : PinningMode} {own : List UInt8}
    {others : List (List UInt8)} {p : List UInt8 → Prop} :
    (∃ c ∈ presented mode own others, p c) ↔ p own ∨ mode = .authority ∧ ∃ c ∈ others, p c := by
  cases mode with
  | certificate => simp [presented]
  | authority => simp [presented]

/-- The fingerprints of certificates make a policy, which looks for these certificates. -/
theorem exists_policy_of_certificates (mode : PinningMode) {certificates : List (List UInt8)}
    (h : certificates ≠ []) :
    ∃ policy, ofTexts mode (certificates.map fingerprint) = .ok policy ∧ ∀ own others,
      policy.admits own others = true ↔ Digest.sha256 own ∈ certificates.map Digest.sha256 ∨
        mode = .authority ∧ ∃ c ∈ others, Digest.sha256 c ∈ certificates.map Digest.sha256 := by
  obtain ⟨policy, hpolicy⟩ := exists_ofTexts_iff.mpr
    ⟨mt List.map_eq_nil_iff.mp h, List.forall_mem_map.mpr fun c _ => isFingerprint_fingerprint c⟩
  refine ⟨policy, hpolicy, fun own others => ?_⟩
  rw [admits_iff_of_ofTexts hpolicy, exists_mem_presented_iff]
  simp only [List.mem_map, exists_exists_and_eq_and, isForm_fingerprint_iff]

/-- The order of the texts and that of the certificates play no part. -/
theorem admits_of_perm {mode : PinningMode} {texts texts' : List String}
    {policy policy' : PinningPolicy} (htexts : texts.Perm texts')
    (h : ofTexts mode texts = .ok policy) (h' : ofTexts mode texts' = .ok policy')
    (own : List UInt8) {others others' : List (List UInt8)} (hothers : others.Perm others') :
    policy'.admits own others' = policy.admits own others := by
  rw [Bool.eq_iff_iff, admits_iff_of_ofTexts h, admits_iff_of_ofTexts h', exists_mem_presented_iff,
    exists_mem_presented_iff]
  simp only [htexts.mem_iff, hothers.mem_iff]

theorem admits_of_subset {mode : PinningMode} {texts texts' : List String}
    {policy policy' : PinningPolicy} (htexts : texts ⊆ texts')
    (h : ofTexts mode texts = .ok policy) (h' : ofTexts mode texts' = .ok policy')
    {own : List UInt8} {others : List (List UInt8)} (hadmits : policy.admits own others = true) :
    policy'.admits own others = true := by
  obtain ⟨c, hc, text, htext, hform⟩ := (admits_iff_of_ofTexts h own others).mp hadmits
  exact (admits_iff_of_ofTexts h' own others).mpr ⟨c, hc, text, htexts htext, hform⟩

/-- **Fingerprints and pins are exact.** There is a policy exactly for at least one text, each of
which is the base64 form of thirty-two bytes, and each digest has one such text; otherwise the error
is about the first text that is none. The fingerprints of certificates make a policy that admits a
chain exactly if its own certificate has the digest of one of them, or in the mode for authorities
another certificate of the chain has. No order of texts or certificates plays a part, the other
certificates play none in the mode for certificates, and more texts admit more chains. -/
theorem pins_are_exact :
    (∀ mode texts, (∃ policy, ofTexts mode texts = .ok policy) ↔
      texts ≠ [] ∧ ∀ text ∈ texts, IsFingerprint text) ∧
    (∀ mode (digest : List UInt8), digest.length = 32 →
      ∃! text, ofTexts mode [text] = .ok ⟨mode, [digest]⟩) ∧
    (∀ mode texts e, ofTexts mode texts = .error e ↔ texts = [] ∧ e = .noFingerprint ∨
      ∃ before text rest, texts = before ++ text :: rest ∧ (∀ t ∈ before, IsFingerprint t) ∧
        ¬IsFingerprint text ∧ e = .invalidFingerprint text) ∧
    (∀ mode certificates, certificates ≠ [] →
      ∃ policy, ofTexts mode (certificates.map fingerprint) = .ok policy ∧ ∀ own others,
        policy.admits own others = true ↔ Digest.sha256 own ∈ certificates.map Digest.sha256 ∨
          mode = .authority ∧ ∃ c ∈ others, Digest.sha256 c ∈ certificates.map Digest.sha256) ∧
    (∀ mode texts texts' policy, texts.Perm texts' → ofTexts mode texts = .ok policy →
      ∃ policy', ofTexts mode texts' = .ok policy' ∧ ∀ own others others', others.Perm others' →
        policy'.admits own others' = policy.admits own others) ∧
    (∀ texts policy, ofTexts .certificate texts = .ok policy →
      ∀ own others others', policy.admits own others' = policy.admits own others) ∧
    ∀ mode texts texts' policy policy', texts ⊆ texts' → ofTexts mode texts = .ok policy →
      ofTexts mode texts' = .ok policy' → ∀ own others, policy.admits own others = true →
        policy'.admits own others = true := by
  refine ⟨fun mode texts => exists_ofTexts_iff, fun mode digest h => existsUnique_text h mode,
    fun mode texts e => ofTexts_eq_error_iff,
    fun mode certificates h => exists_policy_of_certificates mode h, ?_, ?_,
    fun mode texts texts' policy policy' htexts h h' own others hadmits =>
      admits_of_subset htexts h h' hadmits⟩
  · intro mode texts texts' policy htexts h
    have hall := exists_ofTexts_iff.mp ⟨policy, h⟩
    obtain ⟨policy', h'⟩ := exists_ofTexts_iff.mpr
      ⟨fun hempty => hall.1 (htexts.trans (hempty ▸ .refl _)).eq_nil,
        fun text htext => hall.2 text (htexts.mem_iff.mpr htext)⟩
    exact ⟨policy', h', fun own others others' => admits_of_perm htexts h h' own⟩
  · intro texts policy h own others others'
    rw [Bool.eq_iff_iff, admits_iff_of_ofTexts h, admits_iff_of_ofTexts h]
    rfl

/-- The empty certificate is found behind two others, with one text more and in another order. -/
theorem pins_are_exact_of_empty_certificate :
    fingerprint [] = "47DEQpj8HBSa+/TImW+5JCeuQeRkm5NMpJWZG3hSuFU=" ∧
    (∃! text, ofTexts .certificate [text] = .ok ⟨.certificate, [List.replicate 32 0]⟩) ∧
    (∃ policy, ofTexts .certificate [fingerprint []] = .ok policy ∧
      policy.admits [0x62] [[0x63], []] = policy.admits [0x62] []) ∧
    ∃ policy wider turned, ofTexts .authority [fingerprint []] = .ok policy ∧
      ofTexts .authority [fingerprint [], fingerprint [0x61]] = .ok wider ∧
      ofTexts .authority [fingerprint [0x61], fingerprint []] = .ok turned ∧
      policy.admits [0x62] [[0x63], []] = true ∧ wider.admits [0x62] [[0x63], []] = true ∧
      turned.admits [0x62] [[], [0x63]] = true := by
  obtain ⟨-, hdigest, -, hcertificates, hperm, hcertificate, hsubset⟩ := pins_are_exact
  obtain ⟨single, hsingle, -⟩ := hcertificates .certificate [[]] (by decide)
  obtain ⟨policy, hpolicy, hadmits⟩ := hcertificates .authority [[]] (by decide)
  obtain ⟨wider, hwider, -⟩ := hcertificates .authority [[], [0x61]] (by decide)
  obtain ⟨turned, hturned, hsame⟩ := hperm _ _ _ wider (.swap _ _ _) hwider
  have hfound : policy.admits [0x62] [[0x63], []] = true :=
    (hadmits [0x62] [[0x63], []]).mpr (.inr ⟨rfl, [], by decide, List.mem_singleton_self _⟩)
  have htexts : [[]].map fingerprint ⊆ [[], [0x61]].map fingerprint :=
    List.map_subset _ (by decide)
  have hmore : wider.admits [0x62] [[0x63], []] = true :=
    hsubset _ _ _ policy wider htexts hpolicy hwider _ _ hfound
  refine ⟨by decide +kernel, hdigest _ _ (by decide),
    ⟨single, hsingle, hcertificate _ single hsingle _ _ _⟩, policy, wider, turned, hpolicy, hwider,
    hturned, hfound, hmore, ?_⟩
  rw [hsame _ _ _ (.swap _ _ _), hmore]

end PinningPolicy

end Waybill
