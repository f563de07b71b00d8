/-!
# Ordered association lists

A mapping that remembers the order in which its keys first arrived. Setting a
key that is already present changes its value and keeps its place.
-/

namespace RunOnce

universe u

/-- Entries in order of first arrival. -/
abbrev Assoc (α : Type u) := List (String × α)

namespace Assoc

variable {α : Type u}

/-- The keys in order. -/
def keys (entries : Assoc α) : List String :=
  entries.map Prod.fst

/-- The value of a key. -/
def get? (entries : Assoc α) (key : String) : Option α :=
  (entries.find? fun entry => entry.1 == key).map Prod.snd

/-- Change the value of a key in place, or add the key at the end. -/
def update (key : String) (change : Option α → α) : Assoc α → Assoc α
  | [] => [(key, change none)]
  | (k, value) :: rest =>
    if k = key then (k, change (some value)) :: rest
    else (k, value) :: update key change rest

/-- Give a key a value. -/
def set (entries : Assoc α) (key : String) (value : α) : Assoc α :=
  update key (fun _ => value) entries

/-- The mapping that a sequence of settings leaves behind. -/
def ofList (settings : List (String × α)) : Assoc α :=
  settings.foldl (fun entries setting => set entries setting.1 setting.2) []

@[simp]
theorem get?_nil (key : String) : get? ([] : Assoc α) key = none :=
  rfl

theorem get?_cons (k : String) (value : α) (rest : Assoc α) (key : String) :
    get? ((k, value) :: rest) key = if k = key then some value else get? rest key := by
  by_cases same : k = key <;> simp [get?, same]

/-- An update acts on its own key and leaves every other key alone. -/
theorem get?_update (entries : Assoc α) (key : String) (change : Option α → α) (wanted : String) :
    get? (update key change entries) wanted =
      if key = wanted then some (change (get? entries key)) else get? entries wanted := by
  induction entries with
  | nil => simp [update, get?_cons]
  | cons entry rest ih =>
    obtain ⟨k, value⟩ := entry
    by_cases here : k = key
    · subst here
      by_cases same : k = wanted <;> simp [update, get?_cons, same]
    · by_cases same : key = wanted
      · subst same
        simp [update, get?_cons, here, ih]
      · simp [update, get?_cons, here, ih, same]

theorem get?_set (entries : Assoc α) (key : String) (value : α) (wanted : String) :
    get? (set entries key value) wanted =
      if key = wanted then some value else get? entries wanted :=
  get?_update entries key _ wanted

end Assoc

end RunOnce
