import Mathlib.Data.List.Nodup
import Prewire.Output.Reflection

/-! What a reflection configuration mentions. Whatever is added to it comes to what is there, and
nothing is mentioned twice: a type has one entry, and an entry has a member once. -/
namespace Prewire.Output

open Java Types

inductive Mention where
  | type (name : ClassName)
  | method (owner : ClassName) (signature : String)
  | field (owner : ClassName) (name : String)
  deriving DecidableEq, Repr

def Mention.host : Mention → ClassName
  | type name => name
  | method owner _ => owner
  | field owner _ => owner

def ReflectionEntry.mentions (entry : ReflectionEntry) : List Mention :=
  .type entry.type :: (entry.methods.map (.method entry.type) ++ entry.fields.map (.field entry.type))

def mentionsOf (entries : List ReflectionEntry) : List Mention :=
  entries.flatMap ReflectionEntry.mentions

def Reflection.mentions (r : Reflection) : List Mention := mentionsOf r.entries

/-- An executable under the class that declares it. -/
def executableMentions (e : Executable) : List Mention :=
  [.type e.declaringClass, .method e.declaringClass (Reflection.signature e)]

def fieldMentions (field : Field) : List Mention :=
  [.type field.declaringClass, .field field.declaringClass field.name]

/-- Exactly some mentions come to those there are, and where these are all different they stay so. -/
structure Adds (before : List Mention) (added : Mention → Prop) (after : List Mention) : Prop where
  mem : ∀ x, x ∈ after ↔ x ∈ before ∨ added x
  nodup : before.Nodup → after.Nodup

section
variable {before between after : List Mention} {added more : Mention → Prop}

theorem Adds.nothing (mentions : List Mention) : Adds mentions (fun _ => False) mentions :=
  ⟨fun _ => (or_false _).symm.to_iff, id⟩

theorem Adds.trans (first : Adds before added between) (second : Adds between more after) :
    Adds before (fun x => added x ∨ more x) after :=
  ⟨fun x => by rw [second.mem, first.mem, or_assoc], fun distinct => second.nodup (first.nodup distinct)⟩

theorem Adds.congr (adds : Adds before added after) (same : ∀ x, added x ↔ more x) :
    Adds before more after :=
  ⟨fun x => (adds.mem x).trans (or_congr_right (same x)), adds.nodup⟩

theorem adds_foldl {α : Type} {step : Reflection → α → Reflection} {added : α → Mention → Prop}
    (each : ∀ r a, Adds r.mentions (added a) (step r a).mentions) (list : List α) (r : Reflection) :
    Adds r.mentions (fun x => ∃ a ∈ list, added a x) (list.foldl step r).mentions := by
  induction list generalizing r with
  | nil => exact (Adds.nothing _).congr (by simp)
  | cons a rest ih => exact ((each r a).trans (ih (step r a))).congr (by simp)

end

namespace ReflectionEntry

variable {entry : ReflectionEntry} {x : Mention}

@[simp] theorem type_mem {name : ClassName} : .type name ∈ entry.mentions ↔ name = entry.type := by
  simp [mentions]

@[simp] theorem method_mem {owner : ClassName} {signature : String} :
    .method owner signature ∈ entry.mentions ↔ owner = entry.type ∧ signature ∈ entry.methods := by
  simp [mentions, and_comm, eq_comm]

@[simp] theorem field_mem {owner : ClassName} {name : String} :
    .field owner name ∈ entry.mentions ↔ owner = entry.type ∧ name ∈ entry.fields := by
  simp [mentions, and_comm, eq_comm]

theorem host_of_mem (member : x ∈ entry.mentions) : x.host = entry.type := by
  cases x with
  | type name => exact type_mem.mp member
  | method owner signature => exact (method_mem.mp member).1
  | field owner name => exact (field_mem.mp member).1

theorem nodup_mentions : entry.mentions.Nodup ↔ entry.methods.Nodup ∧ entry.fields.Nodup := by
  have methods := List.nodup_map_iff (l := entry.methods) (f := Mention.method entry.type)
    fun _ _ same => (Mention.method.inj same).2
  have fields := List.nodup_map_iff (l := entry.fields) (f := Mention.field entry.type)
    fun _ _ same => (Mention.field.inj same).2
  simp [mentions, List.nodup_append, methods, fields]

theorem mem_adding {present : List String} {member other : String} :
    other ∈ adding present member ↔ other ∈ present ∨ other = member := by
  rw [adding]
  split
  · next known =>
    constructor
    · exact .inl
    · rintro (old | rfl)
      · exact old
      · exact known
  · simp

theorem nodup_adding {present : List String} (member : String) (distinct : present.Nodup) :
    (adding present member).Nodup := by
  rw [adding]
  split
  · exact distinct
  · next new =>
    rw [← List.concat_eq_append]
    exact distinct.concat new

theorem mem_foldl_adding {present members : List String} {other : String} :
    other ∈ members.foldl adding present ↔ other ∈ present ∨ other ∈ members := by
  induction members generalizing present with
  | nil => simp
  | cons member rest ih => rw [List.foldl_cons, ih, mem_adding, List.mem_cons, or_assoc]

theorem nodup_foldl_adding {present : List String} (members : List String) (distinct : present.Nodup) :
    (members.foldl adding present).Nodup := by
  induction members generalizing present with
  | nil => exact distinct
  | cons member rest ih => exact ih (nodup_adding member distinct)

theorem adds_addMethod (entry : ReflectionEntry) (signature : String) :
    Adds entry.mentions (· = .method entry.type signature) (entry.addMethod signature).mentions := by
  constructor
  · intro x
    cases x <;> simp [addMethod, mem_adding, and_or_left]
  · simp only [nodup_mentions]
    exact fun ⟨methods, fields⟩ => ⟨nodup_adding signature methods, fields⟩

theorem adds_addField (entry : ReflectionEntry) (name : String) :
    Adds entry.mentions (· = .field entry.type name) (entry.addField name).mentions := by
  constructor
  · intro x
    cases x <;> simp [addField, mem_adding, and_or_left]
  · simp only [nodup_mentions]
    exact fun ⟨methods, fields⟩ => ⟨methods, nodup_adding name fields⟩

theorem adds_addAll {other : ReflectionEntry} (same : entry.type = other.type) :
    Adds entry.mentions (· ∈ other.mentions) (entry.addAll other).mentions := by
  constructor
  · intro x
    cases x <;> simp [addAll, mem_foldl_adding, and_or_left, same]
  · simp only [nodup_mentions]
    exact fun ⟨methods, fields⟩ =>
      ⟨nodup_foldl_adding other.methods methods, nodup_foldl_adding other.fields fields⟩

end ReflectionEntry

namespace Reflection

variable {entries : List ReflectionEntry} {x : Mention}

/-- With anything the type is mentioned as well, under which it is. -/
theorem type_mem_of_mem (member : x ∈ mentionsOf entries) : .type x.host ∈ mentionsOf entries := by
  obtain ⟨entry, listed, member⟩ := List.mem_flatMap.mp member
  rw [ReflectionEntry.host_of_mem member]
  exact List.mem_flatMap.mpr ⟨entry, listed, List.mem_cons_self⟩

theorem mem_mentionsOf_cons {entry : ReflectionEntry} :
    x ∈ mentionsOf (entry :: entries) ↔ x ∈ entry.mentions ∨ x ∈ mentionsOf entries := by
  rw [mentionsOf, List.flatMap_cons, List.mem_append]
  rfl

/-- Nothing is mentioned twice where that is so in each entry and the entries are for different types. -/
theorem nodup_mentionsOf_cons {entry : ReflectionEntry} : (mentionsOf (entry :: entries)).Nodup ↔
    entry.mentions.Nodup ∧ .type entry.type ∉ mentionsOf entries ∧ (mentionsOf entries).Nodup := by
  rw [mentionsOf, List.flatMap_cons, List.nodup_append]
  constructor
  · rintro ⟨own, others, apart⟩
    exact ⟨own, fun again => apart _ List.mem_cons_self _ again rfl, others⟩
  · rintro ⟨own, once, others⟩
    refine ⟨own, others, ?_⟩
    rintro x member _ again rfl
    have hosted := type_mem_of_mem again
    rw [ReflectionEntry.host_of_mem member] at hosted
    exact once hosted

/-- A type has one entry and an entry repeats no member exactly when nothing is mentioned twice. -/
theorem nodup_mentionsOf : (mentionsOf entries).Nodup ↔ (entries.map ReflectionEntry.type).Nodup ∧
    ∀ entry ∈ entries, entry.methods.Nodup ∧ entry.fields.Nodup := by
  induction entries with
  | nil => simp [mentionsOf]
  | cons entry rest ih =>
    have typed : .type entry.type ∈ mentionsOf rest ↔ entry.type ∈ rest.map ReflectionEntry.type := by
      simp [mentionsOf, eq_comm]
    rw [nodup_mentionsOf_cons, ih, ReflectionEntry.nodup_mentions, typed, List.map_cons,
      List.nodup_cons, List.forall_mem_cons]
    tauto

/-- The type of a changed entry is mentioned, and what the change adds. -/
theorem adds_updateEntry (change : ReflectionEntry → ReflectionEntry) {type : ClassName}
    {added : Mention → Prop} (keeps : ∀ entry, (change entry).type = entry.type)
    (each : ∀ entry, entry.type = type → Adds entry.mentions added (change entry).mentions)
    (entries : List ReflectionEntry) :
    Adds (mentionsOf entries) (fun x => x = .type type ∨ added x)
      (mentionsOf (updateEntry change type entries)) := by
  have hosted {x : Mention} (new : added x) : x.host = type := by
    have member := ((each { type := type } rfl).mem x).mpr (.inr new)
    rw [ReflectionEntry.host_of_mem member, keeps]
  induction entries with
  | nil =>
    have fresh := each { type := type } rfl
    simp only [updateEntry]
    constructor
    · intro x
      rw [mem_mentionsOf_cons, fresh.mem]
      simp [ReflectionEntry.mentions, mentionsOf]
    · intro distinct
      have bare : ({ type := type } : ReflectionEntry).mentions.Nodup :=
        ReflectionEntry.nodup_mentions.mpr ⟨.nil, .nil⟩
      exact nodup_mentionsOf_cons.mpr ⟨fresh.nodup bare, List.not_mem_nil, distinct⟩
  | cons entry rest ih =>
    simp only [updateEntry]
    split
    · next same =>
      have here := each entry same
      constructor
      · intro x
        have known : x = .type type → x ∈ entry.mentions := fun typed => by simp [typed, same]
        rw [mem_mentionsOf_cons, here.mem, mem_mentionsOf_cons]
        tauto
      · simp only [nodup_mentionsOf_cons, keeps]
        exact fun ⟨own, others⟩ => ⟨here.nodup own, others⟩
    · next different =>
      constructor
      · intro x
        rw [mem_mentionsOf_cons, ih.mem, mem_mentionsOf_cons, or_assoc]
      · simp only [nodup_mentionsOf_cons]
        rintro ⟨own, once, others⟩
        refine ⟨own, fun again => ?_, ih.nodup others⟩
        rcases (ih.mem _).mp again with old | typed | new
        · exact once old
        · exact different (Mention.type.inj typed)
        · exact different (hosted new)

variable (r : Reflection)

theorem adds_addType (name : ClassName) :
    Adds r.mentions (· = .type name) (r.addType name).mentions := by
  have updated : Adds r.mentions (fun x => x = .type name ∨ False) (r.addType name).mentions :=
    adds_updateEntry id (fun _ => rfl) (fun _ _ => .nothing _) r.entries
  exact updated.congr (by simp)

theorem adds_addExecutable (e : Executable) :
    Adds r.mentions (· ∈ executableMentions e) (r.addExecutable e).mentions := by
  have updated : Adds r.mentions
      (fun x => x = .type e.declaringClass ∨ x = .method e.declaringClass (signature e))
      (r.addExecutable e).mentions :=
    adds_updateEntry (·.addMethod (signature e)) (fun _ => rfl)
      (fun entry same => same ▸ entry.adds_addMethod _) r.entries
  exact updated.congr (by simp [executableMentions])

theorem adds_addField (field : Field) :
    Adds r.mentions (· ∈ fieldMentions field) (r.addField field).mentions := by
  have updated : Adds r.mentions
      (fun x => x = .type field.declaringClass ∨ x = .field field.declaringClass field.name)
      (r.addField field).mentions :=
    adds_updateEntry (·.addField field.name) (fun _ => rfl)
      (fun entry same => same ▸ entry.adds_addField _) r.entries
  exact updated.congr (by simp [fieldMentions])

theorem adds_merge (other : Reflection) :
    Adds r.mentions (· ∈ other.mentions) (r.merge other).mentions := by
  have each (r : Reflection) (entry : ReflectionEntry) :
      Adds r.mentions (· ∈ entry.mentions) (r.update entry.type (·.addAll entry)).mentions := by
    have updated : Adds r.mentions (fun x => x = .type entry.type ∨ x ∈ entry.mentions)
        (r.update entry.type (·.addAll entry)).mentions :=
      adds_updateEntry (·.addAll entry) (fun _ => rfl) (fun _ same => ReflectionEntry.adds_addAll same)
        r.entries
    exact updated.congr (by simp +contextual)
  exact (adds_foldl each other.entries r).congr (by simp [mentions, mentionsOf])

end Reflection
end Prewire.Output
