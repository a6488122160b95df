import Mathlib.Logic.Function.Basic
import TraitBuilder.Argument.Options

/-!
# Arguments that name the generated types

Three of the arguments of the attribute name a generated type.  Wherever they stand among the other
arguments, they have no influence on how these are read.

* `Entry.Naming`: entries that consist of given entries and of names for some of the three types.
* `Reading.Alike.add_other`, `Reading.Alike.add_naming`: reading one entry with and without names.
* `Options.ofEntries?_of_naming`: the options with names are those without them, but for the names.
-/

namespace TraitBuilder

/-- The generated types that a user may name. -/
inductive NamedType where
  | builder
  | value
  | partialType
  deriving DecidableEq, Repr

namespace NamedType

/-- The three types. -/
def all : List NamedType := [.builder, .value, .partialType]

theorem mem_all (k : NamedType) : k ∈ all := by
  cases k <;> decide

/-- The name of the argument that names the type. -/
def option : NamedType → String
  | .builder => "builder"
  | .value => "value"
  | .partialType => "partial"

theorem option_injective : Function.Injective option := by
  intro j k
  cases j <;> cases k <;> decide

end NamedType

/-- The options with the given names for the three types. -/
def Options.withNames (o : Options) (names : NamedType → Option Ident) : Options :=
  { o with builder := names .builder, value := names .value, partialType := names .partialType }

namespace Entry

/-- The type that the entry names, whatever name it gives. -/
def names? : Entry → Option NamedType
  | .literal => none
  | .named path _ => NamedType.all.find? (·.option = path.joined)

/-- The identifier that the entry gives. -/
def ident? : Entry → Except ArgumentFault Ident
  | .literal => .error .literalEntry
  | .named _ body => body.ident?

/-- The entries consist of the others, in their order, and in between of at most one entry for each
of the three types, which gives it its name, if it has one. -/
structure Naming (names : NamedType → Option Ident) (others entries : List Entry) : Prop where
  others : entries.filter (·.names? = none) = others
  named : ∀ k, (entries.filter (·.names? = some k)).map ident? = (names k).toList.map .ok

end Entry

/-! ## One entry -/

/-- Two readings that differ only in the names of the three types, of which the first has none. -/
structure Reading.Alike (names : NamedType → Option Ident) (r r' : Reading Options) : Prop where
  bare : r.value.withNames (fun _ => none) = r.value
  value : r'.value = r.value.withNames names
  faults : r'.faults = r.faults
  taken : ∀ name, (∀ k : NamedType, k.option ≠ name) → (name ∈ r'.taken ↔ name ∈ r.taken)
  named : ∀ k : NamedType, k.option ∈ r'.taken ↔ names k ≠ none

namespace Reading.Alike

variable {names : NamedType → Option Ident} {r r' : Reading Options}

theorem start : Reading.Alike (fun _ => none) (Reading.start {}) (Reading.start {}) where
  bare := rfl
  value := rfl
  faults := rfl
  taken := by simp [Reading.start]
  named := by simp [Reading.start]

theorem result (h : Reading.Alike names r r') :
    r'.result = r.result.map (·.withNames names) := by
  unfold Reading.result
  rw [h.faults, h.value]
  split <;> rfl

theorem fail (h : Reading.Alike names r r') (fault : ArgumentFault) :
    Reading.Alike names (r.fail fault) (r'.fail fault) where
  bare := h.bare
  value := h.value
  faults := by simp [Reading.fail, h.faults]
  taken := h.taken
  named := h.named

end Reading.Alike

/-- Taking an option that is no name of a type does not depend on these names. -/
theorem Options.accept_withNames {name : String} (hname : ∀ k : NamedType, k.option ≠ name)
    (body : EntryBody) (o : Options) (names : NamedType → Option Ident) :
    Options.accept name body (o.withNames names) =
      (Options.accept name body o).map (·.withNames names) := by
  have hb : name ≠ "builder" := (hname .builder).symm
  have hv : name ≠ "value" := (hname .value).symm
  have hp : name ≠ "partial" := (hname .partialType).symm
  unfold Options.accept
  simp only [hb, hv, hp, if_false]
  split
  · cases body.truth? <;> rfl
  · cases body.switch? <;> rfl

/-- Taking the name of a type adds it to the names. -/
theorem Options.accept_option {k : NamedType} {body : EntryBody} {x : Ident}
    (hx : body.ident? = .ok x) (o : Options) (names : NamedType → Option Ident) :
    Options.accept k.option body (o.withNames names) =
      .ok (o.withNames (Function.update names k (some x))) := by
  cases k <;> simp [Options.accept, NamedType.option, hx] <;> rfl

namespace Reading.Alike

variable {names : NamedType → Option Ident} {r r' : Reading Options}

theorem contains_taken (h : Reading.Alike names r r') {name : String}
    (hname : ∀ k : NamedType, k.option ≠ name) :
    r'.taken.contains name = r.taken.contains name := by
  have htaken := h.taken name hname
  rw [Bool.eq_iff_iff, List.contains_iff_mem, List.contains_iff_mem]
  exact htaken

/-- An entry that names no type is read alike. -/
theorem add_other (h : Reading.Alike names r r') {e : Entry} (he : e.names? = none) :
    Reading.Alike names (r.add Options.names Options.accept e)
      (r'.add Options.names Options.accept e) := by
  cases e with
  | literal => exact h.fail _
  | named path body =>
    have hname : ∀ k : NamedType, k.option ≠ path.joined := by
      intro k
      have hnone := List.find?_eq_none.mp he k k.mem_all
      simpa using hnone
    simp only [Reading.add, h.contains_taken hname]
    split
    · exact h.fail _
    split
    · exact h.fail _
    have hbare := Options.accept_withNames hname body r.value (fun _ => none)
    rw [h.bare] at hbare
    have hvalue := Options.accept_withNames hname body r.value names
    rw [← h.value] at hvalue
    have htaken : ∀ name, (∀ k : NamedType, k.option ≠ name) →
        (name ∈ path.joined :: r'.taken ↔ name ∈ path.joined :: r.taken) := by
      intro name hother
      simp [h.taken name hother]
    have hnamed : ∀ k : NamedType, k.option ∈ path.joined :: r'.taken ↔ names k ≠ none := by
      intro k
      simp [hname k, h.named k]
    cases haccept : Options.accept path.joined body r.value with
    | ok o =>
      simp only [haccept, Except.map] at hvalue hbare
      rw [hvalue]
      exact ⟨(Except.ok.inj hbare).symm, rfl, h.faults, htaken, hnamed⟩
    | error fault =>
      simp only [haccept, Except.map] at hvalue
      rw [hvalue]
      have hfailed : Reading.Alike names { r with taken := path.joined :: r.taken }
          { r' with taken := path.joined :: r'.taken } :=
        ⟨h.bare, h.value, h.faults, htaken, hnamed⟩
      exact hfailed.fail fault

/-- The first entry that names a type has no influence but its name. -/
theorem add_naming (h : Reading.Alike names r r') {e : Entry} {k : NamedType} {x : Ident}
    (he : e.names? = some k) (hx : e.ident? = .ok x) (hk : names k = none) :
    Reading.Alike (Function.update names k (some x)) r
      (r'.add Options.names Options.accept e) := by
  cases e with
  | literal => cases he
  | named path body =>
    have hname : k.option = path.joined := by simpa using List.find?_some he
    have hknown : Options.names.contains path.joined = true := by
      rw [← hname]
      cases k <;> decide
    have hfree : r'.taken.contains path.joined = false := by
      have hnot : k.option ∉ r'.taken := fun hin => (h.named k).mp hin hk
      simpa [← hname] using hnot
    have haccept := Options.accept_option (k := k) hx r.value names
    rw [hname, ← h.value] at haccept
    simp only [Reading.add, hknown, hfree, haccept]
    refine ⟨h.bare, rfl, h.faults, ?_, ?_⟩
    · intro name hother
      have hne : name ≠ path.joined := fun heq => hother k (hname.trans heq.symm)
      simp [hne, h.taken name hother]
    · intro j
      by_cases hj : j = k
      · subst hj
        simp [hname]
      · have hne : j.option ≠ path.joined := fun heq =>
          hj (NamedType.option_injective (heq.trans hname.symm))
        simp [hne, hj, h.named j]

/-! ## All entries -/

/-- Entries that name the remaining types have no influence but these names. -/
theorem addAll {chosen : NamedType → Option Ident} (entries : List Entry)
    (h : Reading.Alike names r r')
    (hnamed : ∀ k, (names k).toList.map .ok ++
      (entries.filter (·.names? = some k)).map Entry.ident? = (chosen k).toList.map .ok) :
    Reading.Alike chosen
      (r.addAll Options.names Options.accept (entries.filter (·.names? = none)))
      (r'.addAll Options.names Options.accept entries) := by
  induction entries generalizing names r r' with
  | nil =>
    have heq : names = chosen := by
      funext k
      have hk := hnamed k
      cases hn : names k <;> cases hc : chosen k <;> simp_all
    subst heq
    exact h
  | cons e rest ih =>
    cases he : e.names? with
    | none =>
      have hrest := ih (h.add_other he) (by simpa [he] using hnamed)
      simpa [Reading.addAll, he] using hrest
    | some k =>
      -- the type is named once, so not before, and not again in the rest
      have hk := hnamed k
      simp only [he, List.filter_cons, decide_true, if_true, List.map_cons] at hk
      obtain ⟨hbefore, x, hx, hafter, hchosen⟩ : names k = none ∧ ∃ x, e.ident? = .ok x ∧
          (rest.filter (·.names? = some k)).map Entry.ident? = [] ∧ chosen k = some x := by
        cases hn : names k <;> cases hc : chosen k <;> simp_all
      have hstep := h.add_naming he hx hbefore
      have hrest := ih hstep (by
        intro j
        by_cases hj : j = k
        · subst hj
          simp [hafter, hchosen]
        · have hother := hnamed j
          have hne : ¬ k = j := fun heq => hj heq.symm
          simpa [he, hj, hne] using hother)
      simpa [Reading.addAll, he] using hrest

end Reading.Alike

theorem Options.ofEntries?_of_naming {names : NamedType → Option Ident}
    {others entries : List Entry} (h : Entry.Naming names others entries) :
    Options.ofEntries? entries = (Options.ofEntries? others).map (·.withNames names) := by
  have halike := Reading.Alike.start.addAll entries (by simpa using h.named)
  rw [h.others] at halike
  exact halike.result

/-- Without an entry that names a type there is no name for it. -/
theorem Options.names_of_ofEntries? {others : List Entry} {o : Options}
    (h : ∀ e ∈ others, e.names? = none) (ho : Options.ofEntries? others = .ok o) :
    o.withNames (fun _ => none) = o := by
  have hnaming : Entry.Naming (fun _ => none) others others := by
    refine ⟨List.filter_eq_self.mpr (by simpa using h), fun k => ?_⟩
    simp only [Option.toList_none, List.map_nil, List.map_eq_nil_iff, List.filter_eq_nil_iff]
    intro e he
    simp [h e he]
  have hsame := Options.ofEntries?_of_naming hnaming
  rw [ho] at hsame
  exact (Except.ok.inj hsame).symm

end TraitBuilder
