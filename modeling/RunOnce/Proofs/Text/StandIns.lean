import Mathlib.Data.List.Nodup
import Mathlib.Data.List.Perm.Subperm
import RunOnce.Text.StandIn

/-!
# What stand-ins keep

Nothing is lost when the codes of a document's texts that are no characters are kept as
stand-ins: the codes of a text can be told from what it is kept as, and what is kept has
stand-ins exactly if there are such codes in it. This holds as long as there are characters left
that are not in use.
-/

namespace RunOnce.Text.StandIns

variable {standIns : StandIns} {texts : List (List Nat)} {others used : List Char}
  {codes : List Nat} {code : Nat} {c : Char}

/-! ## Characters that are left -/

theorem toNat_ofNat_of_isValidChar {code : Nat} (valid : code.isValidChar) :
    (Char.ofNat code).toNat = code := by
  unfold Char.ofNat
  rw [dif_pos valid]
  rfl

theorem toNat_candidate {index : Nat} (within : index < candidateCount) :
    (candidate index).toNat =
      if index < 0x100 then 0x2800 + index else 0xE000 + (index - 0x100) := by
  unfold candidateCount at within
  unfold candidate
  apply toNat_ofNat_of_isValidChar
  unfold Nat.isValidChar
  split <;> omega

theorem candidate_injective {first second : Nat} (within : first < candidateCount)
    (alsoWithin : second < candidateCount) (same : candidate first = candidate second) :
    first = second := by
  have codes := congrArg Char.toNat same
  rw [toNat_candidate within, toNat_candidate alsoWithin] at codes
  split at codes <;> split at codes <;> omega

/-- Of one more characters than are in use, one is not in use. -/
theorem fresh_not_mem (room : used.length < candidateCount) : fresh used ∉ used := by
  have different : ((List.range (used.length + 1)).map candidate).Nodup := by
    refine List.Nodup.map_on ?_ List.nodup_range
    intro first listed second alsoListed
    rw [List.mem_range] at listed alsoListed
    exact candidate_injective (by omega) (by omega)
  unfold fresh
  cases found : ((List.range (used.length + 1)).map candidate).find? fun c => !used.contains c with
  | some c => simpa using List.find?_some found
  | none =>
    have taken : (List.range (used.length + 1)).map candidate ⊆ used := by
      intro c listed
      simpa using List.find?_eq_none.mp found c listed
    have := (List.subperm_of_subset different taken).length_le
    simp only [List.length_map, List.length_range] at this
    omega

/-! ## Chosen stand-ins -/

/-- Whether stand-ins are different from one another and from characters that are in use,
and stand for nothing that is a character. -/
structure Separates (standIns : StandIns) (used : List Char) : Prop where
  unused : ∀ pair ∈ standIns.pairs, pair.2 ∉ used
  different : (standIns.pairs.map Prod.snd).Nodup
  noCharacter : ∀ pair ∈ standIns.pairs, charOfCode? pair.1 = none

theorem map_fst_choose (used : List Char) (codes : List Nat) :
    (choose used codes).map Prod.fst = codes := by
  induction codes generalizing used with
  | nil => rfl
  | cons code codes ih => simp [choose, ih]

theorem not_mem_of_mem_choose {pair : Nat × Char}
    (room : used.length + codes.length ≤ candidateCount) (chosen : pair ∈ choose used codes) :
    pair.2 ∉ used := by
  induction codes generalizing used with
  | nil => cases chosen
  | cons code codes ih =>
    simp only [List.length_cons] at room
    obtain rfl | later := List.mem_cons.mp chosen
    · exact fresh_not_mem (by omega)
    · have fresh := ih (by simp only [List.length_cons]; omega) later
      exact fun taken => fresh (List.mem_cons_of_mem _ taken)

theorem nodup_map_snd_choose (room : used.length + codes.length ≤ candidateCount) :
    ((choose used codes).map Prod.snd).Nodup := by
  induction codes generalizing used with
  | nil => exact List.nodup_nil
  | cons code codes ih =>
    simp only [List.length_cons] at room
    have roomLeft : (fresh used :: used).length + codes.length ≤ candidateCount := by
      simp only [List.length_cons]
      omega
    refine List.nodup_cons.mpr ⟨?_, ih roomLeft⟩
    intro again
    obtain ⟨pair, chosen, same⟩ := List.mem_map.mp again
    exact not_mem_of_mem_choose roomLeft chosen (same ▸ List.mem_cons_self)

theorem mem_damage_iff :
    code ∈ damage texts ↔ code ∈ texts.flatten ∧ charOfCode? code = none := by
  simp only [damage, List.mem_eraseDups, List.mem_filter, Option.isNone_iff_eq_none]

theorem separates_ofTexts
    (room : (inUse texts others).length + (damage texts).length ≤ candidateCount) :
    (ofTexts texts others).Separates (inUse texts others) := by
  unfold ofTexts
  cases damaged : damage texts with
  | nil => exact ⟨by simp, by simp, by simp⟩
  | cons code codes =>
    rw [damaged] at room
    refine ⟨fun _ => not_mem_of_mem_choose room, nodup_map_snd_choose room, ?_⟩
    intro pair chosen
    have listed : pair.1 ∈ damage texts := by
      rw [damaged, ← map_fst_choose (inUse texts others) (code :: codes)]
      exact List.mem_map_of_mem chosen
    exact (mem_damage_iff.mp listed).2

/-! ## Texts that are kept -/

theorem toNat_of_charOfCode? (written : charOfCode? code = some c) : c.toNat = code := by
  unfold charOfCode? at written
  split at written
  · cases written
    exact toNat_ofNat_of_isValidChar ‹_›
  · cases written

theorem charOf_of_charOfCode? (written : charOfCode? code = some c) : standIns.charOf code = c := by
  simp [charOf, written]

theorem Separates.code?_eq_none (separates : standIns.Separates used) (taken : c ∈ used) :
    standIns.code? c = none := by
  simp only [code?, Option.map_eq_none_iff, List.find?_eq_none, beq_iff_eq]
  rintro pair listed rfl
  exact separates.unused pair listed taken

theorem Separates.code?_eq_some (separates : standIns.Separates used) {pair : Nat × Char}
    (listed : pair ∈ standIns.pairs) : standIns.code? pair.2 = some pair.1 := by
  unfold code?
  cases found : standIns.pairs.find? fun other => other.2 == pair.2 with
  | none => simpa using List.find?_eq_none.mp found pair listed
  | some other =>
    have same : other.2 = pair.2 := by simpa using List.find?_some found
    rw [List.inj_on_of_nodup_map separates.different (List.mem_of_find?_eq_some found) listed same]
    rfl

/-- A code that is no character is found again from its stand-in. -/
theorem Separates.code?_charOf (separates : standIns.Separates used)
    (listed : code ∈ standIns.pairs.map Prod.fst) :
    standIns.code? (standIns.charOf code) = some code := by
  obtain ⟨pair, chosen, rfl⟩ := List.mem_map.mp listed
  cases found : standIns.pairs.find? fun other => other.1 == pair.1 with
  | none => simpa using List.find?_eq_none.mp found pair chosen
  | some other =>
    have same : other.1 = pair.1 := by simpa using List.find?_some found
    have kept : standIns.charOf pair.1 = other.2 := by
      simp [charOf, separates.noCharacter pair chosen, found]
    rw [kept, separates.code?_eq_some (List.mem_of_find?_eq_some found), same]

theorem mem_pairs_ofTexts (damaged : code ∈ damage texts) :
    code ∈ (ofTexts texts others).pairs.map Prod.fst := by
  unfold ofTexts
  split
  · rename_i undamaged
    rw [undamaged] at damaged
    cases damaged
  · rwa [map_fst_choose]

/-- The codes of a text are told from what it is kept as. -/
theorem codesOf_textOf
    (room : (inUse texts others).length + (damage texts).length ≤ candidateCount)
    (listed : codes ∈ texts) :
    (ofTexts texts others).codesOf ((ofTexts texts others).textOf codes) = codes := by
  have separates := separates_ofTexts room
  simp only [codesOf, textOf, String.toList_ofList, List.map_map]
  refine (List.map_congr_left ?_).trans (List.map_id codes)
  intro code part
  have among : code ∈ texts.flatten := List.mem_flatten_of_mem listed part
  show ((ofTexts texts others).code? ((ofTexts texts others).charOf code)).getD _ = code
  cases written : charOfCode? code with
  | none =>
    have damaged : code ∈ damage texts := mem_damage_iff.mpr ⟨among, written⟩
    rw [separates.code?_charOf (mem_pairs_ofTexts damaged)]
    rfl
  | some c =>
    have taken : c ∈ inUse texts others := List.mem_eraseDups.mpr
      (List.mem_append_left _ (List.mem_filterMap.mpr ⟨code, among, written⟩))
    rw [charOf_of_charOfCode? written, separates.code?_eq_none taken]
    exact toNat_of_charOfCode? written

theorem charOfCode?_toNat (c : Char) : charOfCode? c.toNat = some c := by
  have valid : c.toNat.isValidChar := c.valid
  rw [charOfCode?, if_pos valid, Char.ofNat_toNat]

/-- A text has stand-ins exactly if it is kept for codes that are no characters. -/
theorem Separates.areAbsentFrom_iff (separates : standIns.Separates used) {text : String} :
    standIns.areAbsentFrom text = true ↔
      ∀ code ∈ standIns.codesOf text, (charOfCode? code).isSome = true := by
  simp only [areAbsentFrom, codesOf, List.all_eq_true, List.forall_mem_map]
  refine forall₂_congr fun c _ => ?_
  cases found : standIns.code? c with
  | none => simp [charOfCode?_toNat]
  | some code =>
    obtain ⟨pair, kept, rfl⟩ := Option.map_eq_some_iff.mp found
    simp [separates.noCharacter pair (List.mem_of_find?_eq_some kept)]

/-- What comes from elsewhere has no stand-ins. -/
theorem areAbsentFrom_of_others {text : String}
    (room : (inUse texts others).length + (damage texts).length ≤ candidateCount)
    (outer : ∀ c ∈ text.toList, c ∈ others) :
    (ofTexts texts others).areAbsentFrom text = true := by
  simp only [areAbsentFrom, List.all_eq_true, Option.isNone_iff_eq_none]
  intro c part
  exact (separates_ofTexts room).code?_eq_none
    (List.mem_eraseDups.mpr (List.mem_append_right _ (outer c part)))

end RunOnce.Text.StandIns
