import Prewire.Proofs.Distinct
import Prewire.Proofs.Output.Reflection

/-! Reflection configurations as logs. However a configuration came about, by additions and by merging
others into it, its log decides what it is: types and members are listed in the order in which they were
first reported. Merging puts one log behind another, and its laws are those of that. -/
namespace Prewire.Output

open Java Types

inductive Addition where
  | type (name : ClassName)
  | executable (e : Executable)
  | field (field : Field)

namespace Addition

def owner : Addition → ClassName
  | .type name => name
  | .executable e => e.declaringClass
  | .field f => f.declaringClass

def method? : Addition → Option String
  | .executable e => some (Reflection.signature e)
  | _ => none

def field? : Addition → Option String
  | .field f => some f.name
  | _ => none

def addTo (r : Reflection) : Addition → Reflection
  | .type name => r.addType name
  | .executable e => r.addExecutable e
  | .field f => r.addField f

def change : Addition → ReflectionEntry → ReflectionEntry
  | .type _ => id
  | .executable e => (·.addMethod (Reflection.signature e))
  | .field f => (·.addField f.name)

theorem addTo_eq_update (r : Reflection) (a : Addition) : a.addTo r = r.update a.owner a.change := by
  cases a <;> rfl

theorem type_change (a : Addition) (entry : ReflectionEntry) : (a.change entry).type = entry.type := by
  cases a <;> rfl

end Addition

/-- How a configuration comes about: from the empty one, by additions, and by merging others that came
about like that. -/
inductive History where
  | empty
  | add (before : History) (a : Addition)
  | merge (before other : History)

namespace History

def result : History → Reflection
  | empty => {}
  | add before a => a.addTo before.result
  | merge before other => before.result.merge other.result

/-- The additions, in order; those of what is merged come where it is merged. -/
def additions : History → List Addition
  | empty => []
  | add before a => before.additions ++ [a]
  | merge before other => before.additions ++ other.additions

end History

def ReflectionEntry.ofLog (log : List Addition) (name : ClassName) : ReflectionEntry where
  type := name
  methods := ((log.filter (·.owner = name)).filterMap Addition.method?).eraseDups
  fields := ((log.filter (·.owner = name)).filterMap Addition.field?).eraseDups

namespace Reflection

/-- The configuration by a log: a type with its members once, where it was first reported. -/
def ofLog (log : List Addition) : Reflection :=
  ⟨(log.map Addition.owner).eraseDups.map (ReflectionEntry.ofLog log)⟩

def replay (r : Reflection) (log : List Addition) : Reflection := log.foldl Addition.addTo r

def types (r : Reflection) : List ClassName := r.entries.map ReflectionEntry.type

def entryOf (r : Reflection) (name : ClassName) : ReflectionEntry :=
  (r.entries.find? (·.type = name)).getD { type := name }

end Reflection

namespace ReflectionEntry

theorem adding_eraseDups (xs : List String) (x : String) :
    adding xs.eraseDups x = (xs ++ [x]).eraseDups := by
  rw [adding, eraseDups_concat]
  simp only [List.mem_eraseDups]

theorem foldl_adding (xs ys : List String) :
    ys.foldl adding xs.eraseDups = (xs ++ ys).eraseDups := by
  induction ys generalizing xs with
  | nil => simp
  | cons y ys ih => rw [List.foldl_cons, adding_eraseDups, ih, List.append_assoc, List.singleton_append]

theorem change_ofLog (log : List Addition) (a : Addition) :
    a.change (ofLog log a.owner) = ofLog (log ++ [a]) a.owner := by
  cases a with
  | type => simp [Addition.change, ofLog, List.filterMap_cons, Addition.method?, Addition.field?]
  | executable e =>
    simp [Addition.change, ofLog, List.filterMap_cons, Addition.method?, Addition.field?, addMethod,
      adding_eraseDups]
  | field f =>
    simp [Addition.change, ofLog, List.filterMap_cons, Addition.method?, Addition.field?, addField,
      adding_eraseDups]

/-- Entries of other types stay. -/
theorem ofLog_concat {log : List Addition} {a : Addition} {name : ClassName} (other : a.owner ≠ name) :
    ofLog (log ++ [a]) name = ofLog log name := by
  simp [ofLog, List.filter_append, other]

theorem addAll_ofLog (first second : List Addition) (name : ClassName) :
    (ofLog first name).addAll (ofLog second name) = ofLog (first ++ second) name := by
  simp [addAll, ofLog, foldl_adding, eraseDups_append_right, List.filter_append]

theorem addAll_empty (entry : ReflectionEntry) (name : ClassName) :
    entry.addAll { type := name } = entry := rfl

end ReflectionEntry

namespace Reflection

variable {r other : Reflection} {type name : ClassName} {change : ReflectionEntry → ReflectionEntry}

theorem types_update (keeps : ∀ entry, (change entry).type = entry.type) (distinct : r.types.Nodup) :
    (r.update type change).types = (r.types ++ [type]).eraseDups := by
  have listed (entries : List ReflectionEntry) : (updateEntry change type entries).map (·.type) =
      if type ∈ entries.map (·.type) then entries.map (·.type)
      else entries.map (·.type) ++ [type] := by
    induction entries with
    | nil => simp [updateEntry, keeps]
    | cons entry rest ih =>
      rw [updateEntry]
      by_cases same : entry.type = type
      · simp [same, keeps]
      · have apart : type ≠ entry.type := Ne.symm same
        by_cases known : type ∈ rest.map (·.type)
        · simp only [if_neg same, List.map_cons, ih, known, List.mem_cons, or_true, if_true]
        · simp only [if_neg same, List.map_cons, ih, known, List.mem_cons, apart, or_false, if_false,
            List.cons_append]
  rw [eraseDups_concat, eraseDups_of_nodup distinct]
  exact listed r.entries

theorem entryOf_update (keeps : ∀ entry, (change entry).type = entry.type) :
    (r.update type change).entryOf name =
      if name = type then change (r.entryOf type) else r.entryOf name := by
  obtain ⟨entries⟩ := r
  show ((updateEntry change type entries).find? (·.type = name)).getD _ = if name = type then
    change ((entries.find? (·.type = type)).getD _) else (entries.find? (·.type = name)).getD _
  induction entries with
  | nil =>
    by_cases same : name = type
    · simp [updateEntry, keeps, same]
    · simp [updateEntry, keeps, same, Ne.symm same]
  | cons entry rest ih =>
    rw [updateEntry]
    by_cases found : entry.type = type
    · by_cases same : name = type
      · simp [found, keeps, same]
      · simp [found, keeps, same, Ne.symm same]
    · by_cases here : entry.type = name
      · have other : name ≠ type := here ▸ found
        simp [here, other]
      · rw [if_neg found, List.find?_cons_of_neg (by simpa using here), ih,
          List.find?_cons_of_neg (by simpa using found), List.find?_cons_of_neg (by simpa using here)]

/-- Where each type has one entry, the entries are those of the types. -/
theorem entries_eq (distinct : r.types.Nodup) : r.entries = r.types.map r.entryOf := by
  obtain ⟨entries⟩ := r
  induction entries with
  | nil => rfl
  | cons entry rest ih =>
    have ⟨once, others⟩ := List.nodup_cons.mp distinct
    have first : (⟨entry :: rest⟩ : Reflection).entryOf entry.type = entry := by simp [entryOf]
    have later : ∀ name ∈ (⟨rest⟩ : Reflection).types,
        (⟨entry :: rest⟩ : Reflection).entryOf name = (⟨rest⟩ : Reflection).entryOf name := by
      intro name listed
      have other : entry.type ≠ name := fun same => once (same ▸ listed)
      simp [entryOf, other]
    show entry :: rest = entryOf _ entry.type :: (types ⟨rest⟩).map (entryOf ⟨entry :: rest⟩)
    rw [first, List.map_congr_left later, ← ih others]

theorem entryOf_of_not_mem (unknown : name ∉ r.types) : r.entryOf name = { type := name } := by
  have none : r.entries.find? (·.type = name) = none := by
    simpa [types] using unknown
  rw [entryOf, none, Option.getD_none]

theorem merge_cons (entry : ReflectionEntry) (rest : List ReflectionEntry) :
    r.merge ⟨entry :: rest⟩ = (r.update entry.type (·.addAll entry)).merge ⟨rest⟩ := rfl

theorem types_merge (distinct : r.types.Nodup) :
    (r.merge other).types = (r.types ++ other.types).eraseDups := by
  obtain ⟨entries⟩ := other
  induction entries generalizing r with
  | nil =>
    show r.types = (r.types ++ []).eraseDups
    rw [List.append_nil, eraseDups_of_nodup distinct]
  | cons entry rest ih =>
    have updated : (r.update entry.type (·.addAll entry)).types = (r.types ++ [entry.type]).eraseDups :=
      types_update (fun _ => rfl) distinct
    have distinct : (r.update entry.type (·.addAll entry)).types.Nodup := by
      rw [updated]
      exact nodup_eraseDups _
    rw [merge_cons, ih distinct, updated, eraseDups_append_left, List.append_assoc]
    rfl

/-- Merging goes entry by entry. -/
theorem entryOf_merge (distinct : other.types.Nodup) :
    (r.merge other).entryOf name = (r.entryOf name).addAll (other.entryOf name) := by
  obtain ⟨entries⟩ := other
  induction entries generalizing r with
  | nil => rfl
  | cons entry rest ih =>
    have ⟨once, others⟩ := List.nodup_cons.mp distinct
    have updated : (r.update entry.type (·.addAll entry)).entryOf name =
        if name = entry.type then (r.entryOf entry.type).addAll entry else r.entryOf name :=
      entryOf_update fun _ => rfl
    rw [merge_cons, ih others, updated]
    by_cases same : name = entry.type
    · have here : (⟨entry :: rest⟩ : Reflection).entryOf name = entry := by simp [entryOf, same]
      have gone : (⟨rest⟩ : Reflection).entryOf name = { type := name } :=
        entryOf_of_not_mem (same ▸ once)
      rw [if_pos same, here, gone, ReflectionEntry.addAll_empty, same]
    · have later : (⟨entry :: rest⟩ : Reflection).entryOf name = (⟨rest⟩ : Reflection).entryOf name := by
        simp [entryOf, Ne.symm same]
      rw [if_neg same, later]

theorem ofLog_append_self (log : List Addition) : ofLog (log ++ log) = ofLog log := by
  have entries : ReflectionEntry.ofLog (log ++ log) = ReflectionEntry.ofLog log := by
    funext name
    simp [ReflectionEntry.ofLog, List.filter_append, eraseDups_append_self]
  rw [ofLog, ofLog, List.map_append, eraseDups_append_self, entries]

end Reflection

namespace History

open Reflection

/-- The induction over a history: an addition is one step, and a merge is as many as were merged. -/
theorem views_result (h : History) : h.result.types = (h.additions.map Addition.owner).eraseDups ∧
    ∀ name, h.result.entryOf name = ReflectionEntry.ofLog h.additions name := by
  induction h with
  | empty => exact ⟨rfl, fun _ => rfl⟩
  | add before a ih =>
    obtain ⟨types, entries⟩ := ih
    have distinct : before.result.types.Nodup := types ▸ nodup_eraseDups _
    refine ⟨?_, fun name => ?_⟩
    · rw [result, Addition.addTo_eq_update, types_update a.type_change distinct, types,
        eraseDups_append_left, additions, List.map_append]
      rfl
    · rw [result, Addition.addTo_eq_update, entryOf_update a.type_change, entries, entries, additions]
      by_cases same : name = a.owner
      · rw [if_pos same, same, ReflectionEntry.change_ofLog]
      · rw [if_neg same, ReflectionEntry.ofLog_concat (Ne.symm same)]
  | merge before other first second =>
    obtain ⟨types, entries⟩ := first
    obtain ⟨types', entries'⟩ := second
    have distinct : before.result.types.Nodup := types ▸ nodup_eraseDups _
    have distinct' : other.result.types.Nodup := types' ▸ nodup_eraseDups _
    refine ⟨?_, fun name => ?_⟩
    · rw [result, types_merge distinct, types, types', eraseDups_append_left, eraseDups_append_right,
        additions, List.map_append]
    · rw [result, entryOf_merge distinct', entries, entries', ReflectionEntry.addAll_ofLog, additions]

theorem nodup_types (h : History) : h.result.types.Nodup := by
  rw [h.views_result.1]
  exact nodup_eraseDups _

/-- What came about is what the log says. -/
theorem result_eq_ofLog (h : History) : h.result = ofLog h.additions := by
  obtain ⟨types, entries⟩ := h.views_result
  have listed : h.result.entries = (ofLog h.additions).entries := by
    rw [entries_eq h.nodup_types, types]
    exact List.map_congr_left fun name _ => entries name
  exact congrArg Reflection.mk listed

theorem result_congr {g h : History} (same : g.additions = h.additions) : g.result = h.result := by
  rw [result_eq_ofLog, result_eq_ofLog, same]

def extend (h : History) (log : List Addition) : History := log.foldl add h

theorem result_extend (h : History) (log : List Addition) :
    (h.extend log).result = h.result.replay log := by
  induction log generalizing h with
  | nil => rfl
  | cons a log ih => exact ih (h.add a)

theorem additions_extend (h : History) (log : List Addition) :
    (h.extend log).additions = h.additions ++ log := by
  induction log generalizing h with
  | nil => exact (List.append_nil _).symm
  | cons a log ih =>
    have rest := ih (h.add a)
    rwa [additions, List.append_assoc] at rest

theorem entryOf_merge_results (a b : History) (name : ClassName) :
    ((a.result.merge b.result).entryOf name).methods =
        withNew (a.result.entryOf name).methods (b.result.entryOf name).methods ∧
      ((a.result.merge b.result).entryOf name).fields =
        withNew (a.result.entryOf name).fields (b.result.entryOf name).fields := by
  have merged := (merge a b).views_result.2 name
  rw [result, additions, ← ReflectionEntry.addAll_ofLog] at merged
  rw [merged, a.views_result.2, b.views_result.2, ReflectionEntry.addAll_ofLog]
  simp [ReflectionEntry.ofLog, List.filter_append, withNew_eraseDups]

/-- Configurations that come about by additions and merges are logs: a type has one entry, nothing is
repeated, and all is listed in the order of its first report. To merge another one is to replay the
additions that it came about by. So it does not matter how merges are grouped, a configuration that is
merged into itself stays, and so does one that is merged with the empty one. What is there comes first, in
its order, followed by what is new, and nothing is lost. -/
theorem merge_replays (a b c : History) :
    (a.result.types.Nodup ∧
      ∀ entry ∈ a.result.entries, entry.methods.Nodup ∧ entry.fields.Nodup) ∧
    a.result = ofLog a.additions ∧
    a.result.merge b.result = a.result.replay b.additions ∧
    (a.result.merge b.result).merge c.result = a.result.merge (b.result.merge c.result) ∧
    a.result.merge a.result = a.result ∧
    (a.result.merge {} = a.result ∧ Reflection.merge {} a.result = a.result) ∧
    (a.result.merge b.result).types = withNew a.result.types b.result.types ∧
    (∀ name, ((a.result.merge b.result).entryOf name).methods =
          withNew (a.result.entryOf name).methods (b.result.entryOf name).methods ∧
        ((a.result.merge b.result).entryOf name).fields =
          withNew (a.result.entryOf name).fields (b.result.entryOf name).fields) ∧
    ∀ x, x ∈ (a.result.merge b.result).mentions ↔ x ∈ a.result.mentions ∨ x ∈ b.result.mentions := by
  have listed : ∀ entry ∈ a.result.entries, entry.methods.Nodup ∧ entry.fields.Nodup := by
    rw [result_eq_ofLog]
    intro entry listed
    obtain ⟨name, -, rfl⟩ := List.mem_map.mp listed
    exact ⟨nodup_eraseDups _, nodup_eraseDups _⟩
  have replayed : (merge a b).result = (a.extend b.additions).result :=
    result_congr (a.additions_extend b.additions).symm
  have grouped : (merge (merge a b) c).result = (merge a (merge b c)).result :=
    result_congr (List.append_assoc ..)
  have repeated : (merge a a).result = a.result := by
    rw [result_eq_ofLog, additions, ofLog_append_self, ← result_eq_ofLog]
  have emptyBefore : (merge empty a).result = a.result := result_congr (List.nil_append _)
  refine ⟨⟨a.nodup_types, listed⟩, a.result_eq_ofLog, ?_, grouped, repeated, ⟨rfl, emptyBefore⟩, ?_,
    entryOf_merge_results a b, (adds_merge a.result b.result).mem⟩
  · rwa [result_extend] at replayed
  · rw [types_merge a.nodup_types, eraseDups_append_of_nodup a.nodup_types b.nodup_types]

end History

end Prewire.Output
