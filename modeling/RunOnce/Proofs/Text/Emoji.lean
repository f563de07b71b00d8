import Mathlib.Data.List.Basic
import RunOnce.Proofs.Text.Tabs
import RunOnce.Text.Emoji

/-!
# Texts without names of emoji

No emoji holds a colon, so each name that is replaced takes two colons with it. A text
keeps its colons exactly if nothing in it is replaced.
-/

namespace RunOnce.Text.Emoji

/-! ## Emoji hold no colons -/

/-- Whether no text of a list holds a colon. -/
def FreeOfColons (lines : List String) : Prop :=
  ∀ line ∈ lines, ':' ∉ line.toList

/-- Whether texts are made of characters that are listed one by one. -/
inductive Spelled : List String → List (List Char) → Prop
  | nil : Spelled [] []
  | cons {cs : List Char} {lines : List String} {spellings : List (List Char)}
      (others : Spelled lines spellings) : Spelled (String.ofList cs :: lines) (cs :: spellings)

theorem FreeOfColons.append {first second : List String} (before : FreeOfColons first)
    (after : FreeOfColons second) : FreeOfColons (first ++ second) :=
  List.forall_mem_append.mpr ⟨before, after⟩

/-- Colons are looked for in the characters: those of a text in quotes are slow to find. -/
theorem Spelled.freeOfColons {lines : List String} {spellings : List (List Char)}
    (spelled : Spelled lines spellings) (free : spellings.all (·.all (· != ':')) = true) :
    FreeOfColons lines := by
  intro line listed
  induction spelled with
  | nil => cases listed
  | @cons cs lines spellings others ih =>
    simp only [List.all_cons, Bool.and_eq_true] at free
    obtain rfl | listed := List.mem_cons.mp listed
    · rw [String.toList_ofList]
      intro within
      exact absurd rfl (bne_iff_ne.mp (List.all_eq_true.mp free.1 _ within))
    · exact ih free.2 listed

theorem freeOfColons_emojiLines : FreeOfColons emojiLines := by
  unfold emojiLines
  repeat' with_reducible apply FreeOfColons.append
  all_goals
    apply Spelled.freeOfColons
    case spelled => repeat' constructor
    case free => decide +kernel

theorem colon_not_mem_of_mem_pairUp {parts : List (List Char)} {name : String}
    {emoji : List Char} (free : ∀ part ∈ parts, ':' ∉ part)
    (listed : (name, emoji) ∈ pairUp parts) : ':' ∉ emoji := by
  fun_induction pairUp parts with
  | case1 first second rest ih =>
    obtain same | listed := List.mem_cons.mp listed
    · cases same
      exact free emoji (by simp)
    · exact ih (fun part within => free part (by simp [within])) listed
  | case2 => cases listed

theorem colon_not_mem_sign (name : List Char) : ':' ∉ (splitSuffix name).2 := by
  unfold splitSuffix
  split
  · rename_i suffix sign found
    have free : ∀ suffix ∈ suffixes, ':' ∉ suffix.2 := by decide
    exact free (suffix, sign) (List.mem_of_find?_eq_some found)
  · simp

/-- No emoji holds a colon. -/
theorem colon_not_mem_of_find? {name emoji : List Char} (found : find? name = some emoji) :
    ':' ∉ emoji := by
  unfold find? at found
  obtain ⟨⟨known, sign⟩, entry, rfl⟩ := Option.map_eq_some_iff.mp found
  obtain ⟨line, listed, paired⟩ := List.mem_flatMap.mp (List.mem_of_find?_eq_some entry)
  have parts : ∀ part ∈ splitOn ' ' line.toList, ':' ∉ part :=
    fun part within => not_mem_of_mem_splitOn (freeOfColons_emojiLines line listed) within
  intro within
  obtain within | within := List.mem_append.mp within
  · exact colon_not_mem_of_mem_pairUp parts paired within
  · exact colon_not_mem_sign name within

/-! ## Replacing -/

/-- Where something is replaced colons are lost. -/
theorem replace_cases (cs : List Char) :
    replace cs = cs ∨ (replace cs).count ':' < cs.count ':' := by
  fun_induction replace cs with
  | case1 => exact .inl rfl
  | case2 c rest name between ih =>
    obtain ⟨rfl, closes⟩ := between
    obtain ⟨after, follows⟩ := List.head?_eq_some_iff.mp closes
    have parts : name ++ ':' :: after = rest := by
      rw [← follows]
      exact List.prefix_iff_eq_append.mp (List.takeWhile_prefix isNamePart)
    have left : rest.drop (name.length + 1) = after := by
      rw [← List.drop_drop, follows]
      rfl
    rw [left] at ih ⊢
    rw [← parts]
    cases found : find? name with
    | none =>
      obtain same | fewer := ih
      · exact .inl (by simp [same])
      · exact .inr (by simpa using fewer)
    | some emoji =>
      have none : emoji.count ':' = 0 := List.count_eq_zero.mpr (colon_not_mem_of_find? found)
      have atMost : (replace after).count ':' ≤ after.count ':' := by
        obtain same | fewer := ih
        · exact Nat.le_of_eq (congrArg (List.count ':') same)
        · exact Nat.le_of_lt fewer
      refine .inr ?_
      simp only [Option.getD_some, List.count_append, List.count_cons_self, none]
      omega
  | case3 c rest name between ih =>
    obtain same | fewer := ih
    · exact .inl (by rw [same])
    · exact .inr (by simpa [List.count_cons] using fewer)

end RunOnce.Text.Emoji
