/-
Module: KavachNpu.Foundation.FiniteMap
Layer: Foundation
Purpose: `HashMap` as Mathlib's extensional `Finmap`, with the one operation Mathlib lacks: `retain`.
  The order of a `HashMap` is not observable through the operations used here, so two maps with the
  same lookups are the same map.
Trusted boundary: human-reviewed spec
Main exports: HashMap, HashMap.retain, HashMap.lookup_retain, HashMap.any_eq_true
-/
import Mathlib.Data.Finmap

namespace KavachNpu

/-- `HashMap<K, V>`. -/
abbrev HashMap (K V : Type) := Finmap fun _ : K => V

namespace HashMap

variable {K V : Type}

theorem nodupKeys_filter {entries : Multiset (Sigma fun _ : K => V)} (distinct : entries.NodupKeys)
    (keep : (Sigma fun _ : K => V) → Prop) [DecidablePred keep] :
    (entries.filter keep).NodupKeys := by
  apply Multiset.nodup_keys.mp
  exact Multiset.nodup_of_le (Multiset.map_le_map (Multiset.filter_le keep entries))
    distinct.nodup_keys

/-- `HashMap::retain`: keep the entries that satisfy the predicate. -/
def retain (keep : K → V → Bool) (map : HashMap K V) : HashMap K V :=
  ⟨map.entries.filter fun entry => keep entry.1 entry.2 = true, nodupKeys_filter map.nodupKeys _⟩

variable [DecidableEq K]

/-- Retaining filters each lookup on its own. -/
theorem lookup_retain (keep : K → V → Bool) (map : HashMap K V) (key : K) :
    (map.retain keep).lookup key = (map.lookup key).filter (keep key) := by
  ext value
  rw [Finmap.lookup_eq_some_iff, retain, Multiset.mem_filter, ← Finmap.lookup_eq_some_iff,
    Option.filter_eq_some_iff]

theorem mem_retain {keep : K → V → Bool} {map : HashMap K V} {key : K} :
    key ∈ map.retain keep ↔ ∃ value, map.lookup key = some value ∧ keep key value = true := by
  rw [Finmap.mem_iff]
  simp only [lookup_retain, Option.filter_eq_some_iff]

/-- Retaining by a weaker predicate first changes nothing. -/
theorem retain_retain_of_imp {weaker keep : K → V → Bool}
    (implies : ∀ key value, keep key value = true → weaker key value = true) (map : HashMap K V) :
    (map.retain weaker).retain keep = map.retain keep := by
  apply Finmap.ext_lookup
  intro key
  rw [lookup_retain, lookup_retain, lookup_retain, Option.filter_filter]
  congr 1
  funext value
  cases kept : keep key value with
  | true => simp [implies key value kept]
  | false => simp

@[simp] theorem retain_empty (keep : K → V → Bool) : retain keep (∅ : HashMap K V) = ∅ := by
  apply Finmap.ext_lookup
  intro key
  rw [lookup_retain, Finmap.lookup_empty]
  rfl

omit [DecidableEq K] in
theorem foldl_or_eq_any (holds : (Sigma fun _ : K => V) → Bool) (entries : List (Sigma fun _ : K => V))
    (seen : Bool) :
    entries.foldl (fun found e => found || holds e) seen = (seen || entries.any holds) := by
  induction entries generalizing seen with
  | nil => simp
  | cons e rest ih => simp [ih, Bool.or_assoc]

/-- Some entry satisfies the predicate. -/
theorem any_eq_true {map : HashMap K V} {holds : K → V → Bool} :
    map.any holds = true ↔ ∃ key value, map.lookup key = some value ∧ holds key value = true := by
  induction map using Finmap.induction_on with
  | H entries =>
      have listed : Finmap.any holds entries.toFinmap = entries.entries.any fun e => holds e.1 e.2 :=
        foldl_or_eq_any _ entries.entries false
      rw [listed, List.any_eq_true]
      constructor
      · rintro ⟨⟨key, value⟩, member, satisfied⟩
        exact ⟨key, value, AList.mem_lookup_iff.mpr member, satisfied⟩
      · rintro ⟨key, value, found, satisfied⟩
        exact ⟨⟨key, value⟩, AList.mem_lookup_iff.mp found, satisfied⟩

/-- Erasing an absent key changes nothing. -/
theorem erase_of_notMem {map : HashMap K V} {key : K} (absent : ¬ key ∈ map) : map.erase key = map := by
  apply Finmap.ext_lookup
  intro other
  by_cases same : other = key
  · rw [same, Finmap.lookup_erase, Finmap.lookup_eq_none.mpr absent]
  · rw [Finmap.lookup_erase_ne same]

end HashMap

end KavachNpu
