import Mathlib.Data.List.AList
import MoqQuic.Quic.StreamID

/-!
# MoqQuic.Quic.StreamsMap.Values

The streams in a map, and what is done to all of them.
-/

namespace MoqQuic.Quic

/-- Apply a function to every value. -/
def mapValues {α τ : Type} (f : τ → τ) (s : AList fun _ : α => τ) : AList fun _ : α => τ where
  entries := s.entries.map fun e => ⟨e.1, f e.2⟩
  nodupKeys := by
    have hkeys : (s.entries.map fun e => (⟨e.1, f e.2⟩ : (_ : α) × τ)).keys = s.entries.keys := by
      simp [List.keys]
    rw [List.NodupKeys, hkeys]
    exact s.nodupKeys

/-- Change the value of a key, if there is one. -/
def setValue {α τ : Type} [DecidableEq α] (a : α) (b : τ) (s : AList fun _ : α => τ) :
    AList fun _ : α => τ where
  entries := s.entries.map fun e => ⟨e.1, if e.1 = a then b else e.2⟩
  nodupKeys := by
    have hkeys : (s.entries.map fun e => (⟨e.1, if e.1 = a then b else e.2⟩ : (_ : α) × τ)).keys =
        s.entries.keys := by
      simp [List.keys]
    rw [List.NodupKeys, hkeys]
    exact s.nodupKeys

section

variable {α τ : Type} {f g : τ → τ} {s : AList fun _ : α => τ}

theorem mapValues_mapValues : mapValues f (mapValues g s) = mapValues (f ∘ g) s := by
  refine AList.ext ?_
  simp [mapValues]

@[simp] theorem keys_mapValues : (mapValues f s).keys = s.keys := by
  simp [mapValues, AList.keys, List.keys]

/-- The values, in the order of the entries. -/
def values (s : AList fun _ : α => τ) : List τ := s.entries.map fun e => e.2

theorem mapValues_congr (h : ∀ b ∈ values s, f b = g b) : mapValues f s = mapValues g s := by
  refine AList.ext (List.map_congr_left fun e he => ?_)
  rw [h e.2 (List.mem_map_of_mem he)]

theorem mapValues_eq_self (h : ∀ b ∈ values s, f b = b) : mapValues f s = s :=
  (mapValues_congr h).trans (AList.ext (List.map_id _))

theorem values_mapValues : values (mapValues f s) = (values s).map f := by
  simp [values, mapValues]

variable [DecidableEq α]

variable (a : α)

theorem dlookup_map (l : List ((_ : α) × τ)) :
    (l.map fun e => (⟨e.1, f e.2⟩ : (_ : α) × τ)).dlookup a = (l.dlookup a).map f := by
  induction l with
  | nil => rfl
  | cons e l ih =>
    obtain ⟨a', b⟩ := e
    by_cases h : a = a'
    · subst h
      simp
    · simp [h, ih]

theorem kerase_map (l : List ((_ : α) × τ)) :
    (l.map fun e => (⟨e.1, f e.2⟩ : (_ : α) × τ)).kerase a =
      (l.kerase a).map fun e => ⟨e.1, f e.2⟩ := by
  induction l with
  | nil => rfl
  | cons e l ih =>
    by_cases h : a = e.1
    · simp [h]
    · simp [h, ih]

@[simp] theorem lookup_mapValues : (mapValues f s).lookup a = (s.lookup a).map f :=
  dlookup_map a s.entries

@[simp] theorem mapValues_erase : mapValues f (s.erase a) = (mapValues f s).erase a :=
  AList.ext (kerase_map a s.entries).symm

@[simp] theorem mapValues_insert (b : τ) :
    mapValues f (s.insert a b) = (mapValues f s).insert a (f b) := by
  refine AList.ext ?_
  rw [AList.entries_insert]
  simp [mapValues, AList.entries_insert, kerase_map]

theorem mapValues_setValue (b : τ) :
    mapValues f (setValue a b s) = setValue a (f b) (mapValues f s) := by
  refine AList.ext ?_
  simp only [mapValues, setValue, List.map_map]
  refine List.map_congr_left fun e _ => ?_
  simp only [Function.comp_apply, apply_ite f]

/-- The value is the one of the key already. -/
theorem setValue_of_lookup {a : α} {b : τ} (h : s.lookup a = some b) : setValue a b s = s := by
  refine AList.ext ((List.map_congr_left fun e he => ?_).trans (List.map_id _))
  obtain ⟨a', b'⟩ := e
  dsimp only
  split
  · next heq =>
    subst heq
    have hb' := AList.mem_lookup_iff.mpr he
    rw [Option.mem_def, h] at hb'
    cases hb'
    rfl
  · rfl

/-- There is a function that changes exactly the values without the property. -/
theorem exists_fixed_iff {P : τ → Prop} {b : τ} (hb : P b) : ∃ f : τ → τ, ∀ a, f a = a ↔ P a := by
  classical
  refine ⟨fun a => if P a then a else b, fun a => ?_⟩
  dsimp only
  split
  · next ha => simp [ha]
  · next ha => exact ⟨fun h => h ▸ hb, fun h => absurd h ha⟩

/-- All values have the property. -/
def AllValues (P : τ → Prop) (s : AList fun _ : α => τ) : Prop := ∀ a b, s.lookup a = some b → P b

variable {P : τ → Prop}

theorem allValues_iff : AllValues P s ↔ ∀ b ∈ values s, P b := by
  constructor
  · intro h b hb
    obtain ⟨e, he, rfl⟩ := List.mem_map.mp hb
    exact h e.1 e.2 (AList.mem_lookup_iff.mpr he)
  · intro h a b hlookup
    exact h b (List.mem_map.mpr ⟨⟨a, b⟩, AList.mem_lookup_iff.mp hlookup, rfl⟩)

theorem allValues_empty : AllValues P (∅ : AList fun _ : α => τ) := by
  intro a b hlookup
  cases hlookup

end

end MoqQuic.Quic
