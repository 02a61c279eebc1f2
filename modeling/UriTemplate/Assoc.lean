set_option autoImplicit false

namespace UriTemplate

abbrev Assoc (κ α : Type) := List (κ × α)

namespace Assoc

variable {κ α : Type}

def keys (m : Assoc κ α) : List κ := m.map (·.1)

variable [DecidableEq κ]

def find? (m : Assoc κ α) (name : κ) : Option α :=
  match m with
  | [] => none
  | (k, v) :: rest => if k = name then some v else find? rest name

def contains (m : Assoc κ α) (name : κ) : Bool := (m.find? name).isSome

def put (m : Assoc κ α) (name : κ) (value : α) : Assoc κ α :=
  match m with
  | [] => [(name, value)]
  | (k, v) :: rest => if k = name then (name, value) :: rest else (k, v) :: put rest name value

def putAll (m : Assoc κ α) (entries : List (κ × α)) : Assoc κ α :=
  entries.foldl (fun m e => m.put e.1 e.2) m

def ofList (entries : List (κ × α)) : Assoc κ α := putAll [] entries

theorem find?_put (m : Assoc κ α) (name other : κ) (value : α) :
    (m.put name value).find? other = if name = other then some value else m.find? other := by
  induction m with
  | nil => simp [put, find?]
  | cons e rest ih =>
    obtain ⟨k, v⟩ := e
    by_cases hk : k = name <;> by_cases ho : name = other <;> simp_all [put, find?]

theorem keys_put (m : Assoc κ α) (name : κ) (value : α) :
    (m.put name value).keys = if name ∈ m.keys then m.keys else m.keys ++ [name] := by
  induction m with
  | nil => simp [put, keys]
  | cons e rest ih =>
    obtain ⟨k, v⟩ := e
    by_cases hk : k = name
    · simp [put, keys, hk]
    · simp only [keys] at ih
      by_cases hm : name ∈ rest.map (·.1) <;> simp [put, hk, keys, ih, hm, Ne.symm hk]

theorem nodup_keys_put {m : Assoc κ α} (h : m.keys.Nodup) (name : κ) (value : α) :
    (m.put name value).keys.Nodup := by
  rw [keys_put]
  split
  · exact h
  · next hn =>
    rw [List.nodup_append]
    refine ⟨h, by simp, fun a ha b hb => ?_⟩
    rw [List.mem_singleton.1 hb]
    exact fun hab => hn (hab ▸ ha)

theorem nodup_keys_putAll {m : Assoc κ α} (h : m.keys.Nodup) (entries : List (κ × α)) :
    (m.putAll entries).keys.Nodup := by
  induction entries generalizing m with
  | nil => exact h
  | cons e rest ih => exact ih (nodup_keys_put h e.1 e.2)

end Assoc

end UriTemplate
