import Reencode.Proofs.Collection.Meanwhile
import Reencode.Proofs.Collection.Replica

/-!
# Rosters

The roster of a collection is what there is to know of its membership: who is in it, under which
name and in which order, who is selected, how many ids were given out so far, and whether the
scheduler accepts jobs.  Nothing else matters for what an operation does to the membership, so the
operations can be defined on rosters alone (`Roster.perform`), without jobs, outcomes and observers.

The rules of membership are then about rosters (`Roster.Sound`): names and ids are distinct, members
come in the order of their ids, and somebody in the roster is selected unless it is empty.  Every
operation keeps them, also one that fails half way.

On the side of collections most steps leave the roster alone (`Collection.Step.roster_eq`); what the
others do to it is computed here.
-/

namespace Reencode

variable {S : Type}

/-- Who is in a collection, and what decides who will be. -/
structure Roster where
  members : List (EntryId × String)
  selected : Option EntryId
  given : Nat
  accepting : Bool
deriving DecidableEq

namespace Roster

/-! ## Operations on rosters -/

/-- Nobody was ever in. -/
def initial : Roster := ⟨[], none, 0, true⟩

/-- The members in order. -/
def ids (r : Roster) : List EntryId := r.members.map (·.1)

/-- The names of the members, in their order. -/
def names (r : Roster) : List String := r.members.map (·.2)

/-- The id of the next member. -/
def nextId (r : Roster) : EntryId := .nth (r.given + 1)

/-- A new member comes last, and is selected if nobody is. -/
def enter (r : Roster) (name : String) : Roster :=
  { r with
    members := r.members ++ [(r.nextId, name)]
    selected := r.selected.or (some r.nextId)
    given := r.given + 1 }

/-- A new member comes in, unless its name is taken. -/
def add (r : Roster) (name : String) : Roster := if name ∈ r.names then r else r.enter name

/-- New members come in, one after the other; the first whose job is refused is the last one. -/
def addMany (r : Roster) : List String → Roster
  | [] => r
  | name :: rest =>
    if !isImageName name || decide (name ∈ r.names) then r.addMany rest
    else if r.accepting then (r.enter name).addMany rest
    else r.enter name

/-- A member leaves; if it was selected, the oldest of the others is. -/
def strike (r : Roster) (id : EntryId) : Roster :=
  let left := r.members.filter (·.1 ≠ id)
  { r with
    members := left
    selected := if r.selected = some id then (left.map (·.1)).head? else r.selected }

/-- Everybody leaves. -/
def clear (r : Roster) : Roster := { r with members := [], selected := none }

/-- Somebody is selected. -/
def choose (r : Roster) (id : Option EntryId) : Roster := { r with selected := id }

/-- What an operation does to a roster. -/
def perform (r : Roster) : Operation → Roster
  | .add name _ => r.add name
  | .addMany files => r.addMany (files.map (·.1))
  | .remove id => if id ∈ r.ids then r.strike id else r
  | .clear => r.clear
  | .select id | .resetParams id => if id ∈ r.ids then r.choose (some id) else r
  | .close => { r.clear with accepting := false }
  | .shutExecutor => { r with accepting := false }
  | _ => r

/-! ## The rules of membership -/

/-- A roster that keeps the rules. -/
structure Sound (r : Roster) : Prop where
  names : r.names.Nodup
  order : r.ids.Sublist ((List.range r.given).map fun n => .nth (n + 1))
  unselected : r.selected = none ↔ r.members = []
  present : ∀ id, r.selected = some id → id ∈ r.ids

namespace Sound

variable {r : Roster} {name : String} {id : EntryId}

lemma initial : Roster.initial.Sound := ⟨List.nodup_nil, List.nil_sublist _, by decide, nofun⟩

lemma enter (h : r.Sound) (free : name ∉ r.names) : (r.enter name).Sound where
  names := by
    have split : (r.enter name).names = r.names ++ [name] := List.map_append
    rw [split]
    refine h.names.append (List.nodup_singleton name) ?_
    intro other old new
    obtain rfl := List.mem_singleton.mp new
    exact free old
  order := by
    have split : (r.enter name).ids = r.ids ++ [r.nextId] := List.map_append
    rw [split]
    show (r.ids ++ [r.nextId]).Sublist ((List.range (r.given + 1)).map _)
    rw [List.range_succ, List.map_append]
    exact h.order.append (List.Sublist.refl _)
  unselected := by simp [Roster.enter]
  present := by
    intro id selected
    have split : (r.enter name).ids = r.ids ++ [r.nextId] := List.map_append
    rw [split, List.mem_append, List.mem_singleton]
    -- A new member is selected only if nobody was.
    cases before : r.selected with
    | none =>
      rw [Roster.enter, before] at selected
      exact .inr (Option.some.inj selected).symm
    | some old =>
      rw [Roster.enter, before] at selected
      exact .inl (h.present id (before.trans selected))

lemma add (h : r.Sound) : (r.add name).Sound := by
  unfold Roster.add
  split
  · exact h
  · rename_i free
    exact h.enter free

lemma addMany (names : List String) : ∀ {r : Roster}, r.Sound → (r.addMany names).Sound := by
  -- Induction on the names; a name that is taken is passed over, and the first that is refused ends
  -- it.
  induction names with
  | nil => exact fun h => h
  | cons name rest ih =>
    intro r h
    unfold Roster.addMany
    split
    · exact ih h
    · rename_i goes_in
      have free : name ∉ r.names := by
        intro taken
        simp [taken] at goes_in
      split
      · exact ih (h.enter free)
      · exact h.enter free

lemma strike (h : r.Sound) : (r.strike id).Sound where
  names := h.names.sublist (List.filter_sublist.map _)
  order := (List.filter_sublist.map _).trans h.order
  unselected := by
    unfold Roster.strike
    by_cases mine : r.selected = some id
    · simp [mine]
    · simp only [mine, if_false, h.unselected, List.filter_eq_nil_iff]
      constructor
      · intro empty
        simp [empty]
      · intro gone
        by_contra some_left
        -- Whoever is selected stays, because it is not the one who leaves.
        have selected := mt h.unselected.mp some_left
        obtain ⟨other, chosen⟩ := Option.ne_none_iff_exists'.mp selected
        obtain ⟨m, hm, rfl⟩ := List.mem_map.mp (h.present other chosen)
        refine gone m hm (decide_eq_true fun same => mine ?_)
        rw [chosen, same]
  present := by
    intro other selected
    unfold Roster.strike at selected
    split at selected
    · exact List.mem_of_head? selected
    · rename_i others
      obtain ⟨m, hm, rfl⟩ := List.mem_map.mp (h.present other selected)
      refine List.mem_map_of_mem (List.mem_filter.mpr ⟨hm, decide_eq_true fun same => others ?_⟩)
      rw [selected, same]

lemma clear (r : Roster) : r.clear.Sound :=
  ⟨List.nodup_nil, List.nil_sublist _, by simp [Roster.clear], nofun⟩

lemma choose (h : r.Sound) (mem : id ∈ r.ids) : (r.choose (some id)).Sound where
  names := h.names
  order := h.order
  unselected := by
    obtain ⟨m, hm, -⟩ := List.mem_map.mp mem
    have filled : r.members ≠ [] := List.ne_nil_of_mem hm
    simp [Roster.choose, filled]
  present := by
    intro other selected
    obtain rfl := Option.some.inj selected
    exact mem

/-- Every operation keeps the rules. -/
theorem perform (h : r.Sound) (op : Operation) : (r.perform op).Sound := by
  have chosen : ∀ id, (if id ∈ r.ids then r.choose (some id) else r).Sound := by
    intro id
    split
    · rename_i mem
      exact h.choose mem
    · exact h
  cases op with
  | add name data => exact h.add
  | addMany files => exact addMany _ h
  | remove id =>
    show (if id ∈ r.ids then r.strike id else r).Sound
    split
    · exact h.strike
    · exact h
  | clear => exact clear r
  | select id => exact chosen id
  | resetParams id => exact chosen id
  | close => exact ⟨(clear r).names, (clear r).order, (clear r).unselected, (clear r).present⟩
  | shutExecutor => exact ⟨h.names, h.order, h.unselected, h.present⟩
  | _ => exact h

/-- Operations keep the rules, one after the other. -/
theorem foldl (ops : List Operation) (h : r.Sound) : (ops.foldl Roster.perform r).Sound := by
  induction ops generalizing r with
  | nil => exact h
  | cons op rest ih => exact ih (h.perform op)

end Sound

end Roster

/-! ## The roster of a collection -/

/-- An entry as a member. -/
def Entry.member (e : Entry) : EntryId × String := (e.id, e.name)

namespace Scheduler

variable {codec : Codec S}

/-- Whether neither the scheduler nor its executor was shut down. -/
def accepts (s : Scheduler S) : Bool := !s.closed && !s.executorShut

lemma accepts_iff {s : Scheduler S} : s.accepts = true ↔ s.Accepting := by
  simp [accepts, Accepting]

lemma accepts_congr {s s' : Scheduler S} (closed : s'.closed = s.closed)
    (executorShut : s'.executorShut = s.executorShut) : s'.accepts = s.accepts := by
  rw [accepts, accepts, closed, executorShut]

lemma Alike.accepts {s s' : Scheduler S} (same : s.Alike s') : s'.accepts = s.accepts :=
  accepts_congr same.closed same.executorShut

lemma accepts_forget (s : Scheduler S) (id : EntryId) : (s.forget id).accepts = s.accepts :=
  (releaseIdle_alike { s with cache := s.cache.invalidate id } id).accepts

lemma accepts_submit (s : Scheduler S) (j : Job) : (s.submit codec j).2.1.accepts = s.accepts := by
  by_cases accepted : (s.submit codec j).1 = .ok ()
  · have before := (submit_result s codec j).mp accepted
    rw [accepts_iff.mpr before, accepts_iff.mpr (Accepting.submit before j)]
  · exact (submit_alike accepted).accepts

lemma accepts_take {s s' : Scheduler S} {o : Outcome} (taken : s.take = some (o, s')) :
    s'.accepts = s.accepts := by
  unfold take at taken
  split at taken
  · cases taken
  · obtain ⟨-, rfl⟩ := Prod.mk.inj (Option.some.inj taken)
    rfl

lemma accepts_runPending (s : Scheduler S) (k : Nat) :
    (s.runPending codec k).2.1.accepts = s.accepts :=
  accepts_congr (Upholds.ran k).closed (Upholds.ran k).executorShut

lemma accepts_runAll (numbers : List Nat) : ∀ s : Scheduler S,
    (s.runAll codec numbers).1.accepts = s.accepts := by
  induction numbers with
  | nil => exact fun s => rfl
  | cons k rest ih => exact fun s => (ih _).trans (s.accepts_runPending k)

lemma accepts_shutdown (s : Scheduler S) : (s.shutdown codec true).1.accepts = false := by
  unfold shutdown
  split
  · rename_i closed
    simp [accepts, closed]
  · exact (accepts_runAll _ _).trans (Bool.and_false _)

lemma accepts_cancel (s : Scheduler S) (k : Nat) : (s.cancel k).2.accepts = s.accepts := by
  unfold cancel
  split
  · rfl
  · exact (finish_alike _ _).accepts

end Scheduler

/-- Whether a deed changes who is in a collection, who is selected, or whether jobs are accepted. -/
def Deed.enrolls : Deed → Bool
  | imported _ | removed _ | cleared | chosen _ | shut => true
  | _ => false

namespace Collection

variable {codec : Codec S} {c c' : Collection S} {d : Deed} {e e' : Entry} {id : EntryId}

/-- The roster of a collection. -/
def roster (c : Collection S) : Roster :=
  ⟨c.entries.map Entry.member, c.selected, c.shelf.length, c.scheduler.accepts⟩

lemma ids_roster (shelved : Shelved c.ids c.shelf) : c.roster.ids = c.ids := by
  rw [← shelved.ids_entries]
  exact List.map_map

lemma names_roster (c : Collection S) : c.roster.names = c.entries.map Entry.name := List.map_map

/-- Entries come in the order in which they were imported. -/
lemma entries_sublist (shelved : Shelved c.ids c.shelf) : c.entries.Sublist c.shelf := by
  have all : (c.shelf.map Entry.id).filterMap c.find? = c.shelf := by
    rw [List.filterMap_map]
    refine (List.filterMap_congr fun e mem => ?_).trans List.filterMap_some
    exact shelved.find?_eq_some_iff.mpr ⟨mem, rfl⟩
  have fewer := shelved.sublist.filterMap c.find?
  rwa [all] at fewer

/-- Putting an entry back leaves the roster alone, if the entry keeps its name. -/
lemma roster_setEntry (shelved : Shelved c.ids c.shelf) (mem : e ∈ c.shelf)
    (same : e'.member = e.member) : (c.setEntry e').roster = c.roster := by
  have members : (c.setEntry e').entries.map Entry.member = c.entries.map Entry.member :=
    map_entries_setEntry shelved mem (congrArg Prod.fst same) same
  have length : (c.setEntry e').shelf.length = c.shelf.length := List.length_map _
  rw [roster, members, length]
  rfl

/-! ## Steps -/

lemma roster_insert (shelved : Shelved c.ids c.shelf) (name : String) (data : ByteArray)
    (p : Params) : (c.insert name data p).2.roster =
      { c.roster with
        members := c.roster.members ++ [(c.nextId, name)]
        given := c.roster.given + 1 } := by
  have members : (c.insert name data p).2.entries.map Entry.member =
      c.entries.map Entry.member ++ [(c.nextId, name)] := by
    rw [entries_insert shelved, List.map_append]
    rfl
  have length : (c.insert name data p).2.shelf.length = c.shelf.length + 1 := List.length_append
  rw [roster, members, length]
  rfl

lemma roster_removed (found : c.get? id = some e) : ((c.drop id).destroy e).roster =
    { c.roster with members := c.roster.members.filter (·.1 ≠ id) } := by
  have members : ((c.drop id).destroy e).entries.map Entry.member =
      (c.entries.map Entry.member).filter (·.1 ≠ id) := by
    rw [entries_removed found, List.filter_map]
    rfl
  have length : ((c.drop id).destroy e).shelf.length = c.shelf.length := List.length_map _
  have accepts : ((c.drop id).destroy e).scheduler.accepts = c.scheduler.accepts :=
    Scheduler.accepts_forget _ _
  rw [roster, members, length, accepts]
  rfl

lemma roster_cleared (c : Collection S) :
    (({ c with ids := [] }.destroyAll c.ids).choose none).roster = c.roster.clear := by
  have kept : ({ c with ids := [] }.destroyAll c.ids).shelf.length = c.shelf.length ∧
      ({ c with ids := [] }.destroyAll c.ids).scheduler.accepts = c.scheduler.accepts := by
    refine destroyAll_induction (P := fun c' : Collection S =>
      c'.shelf.length = c.shelf.length ∧ c'.scheduler.accepts = c.scheduler.accepts) ?_ c.ids
      { c with ids := [] } ⟨rfl, rfl⟩
    rintro c' id e ⟨length, accepts⟩ -
    exact ⟨(List.length_map _).trans length, (Scheduler.accepts_forget _ _).trans accepts⟩
  rw [roster, entries_cleared]
  exact congrArg₂ (Roster.mk [] none) kept.1 kept.2

/-- Every other step leaves the roster alone. -/
theorem Step.roster_eq (shelved : Shelved c.ids c.shelf) (st : Step codec c d c')
    (same : d.enrolls = false) : c'.roster = c.roster := by
  have manned : ∀ {s : Scheduler S}, s.accepts = c.scheduler.accepts →
      ({ c with scheduler := s } : Collection S).roster = c.roster :=
    fun accepts => congrArg (Roster.mk _ _ _) accepts
  -- An entry is put back under its name, and the scheduler goes on.
  have put : ∀ {s : Scheduler S} {e e' : Entry}, e ∈ c.shelf → e'.member = e.member →
      s.accepts = c.scheduler.accepts →
      ({ c with scheduler := s }.setEntry e').roster = c.roster := by
    intro s e e' mem named accepts
    exact (roster_setEntry (c := { c with scheduler := s }) shelved mem named).trans
      (manned accepts)
  -- Only an entry that comes or goes, a selection and an end are seen in the roster.
  cases st with
  | imported | removed | cleared | chosen | executorShut | closed => cases same
  | paramsSet params found =>
    obtain ⟨mem, -⟩ := shelved.mem_of_find? found
    exact put mem rfl rfl
  | dispatched found accepted | refused found refusal =>
    obtain ⟨mem, -⟩ := shelved.mem_of_find? found
    exact put mem rfl (Scheduler.accepts_submit c.scheduler _)
  | faulted taken found payload recorded =>
    obtain ⟨mem, -⟩ := shelved.mem_of_get? found
    obtain ⟨-, -, rfl⟩ := Entry.recordFault_eq_some recorded
    exact put mem rfl (Scheduler.accepts_take taken)
  | updated taken found payload replaced =>
    obtain ⟨mem, -⟩ := shelved.mem_of_get? found
    obtain ⟨-, -, handle, -, rfl⟩ := Entry.applyOutput_eq_some replaced
    exact put mem rfl (Scheduler.accepts_take taken)
  | dropped taken ignored => exact manned (Scheduler.accepts_take taken)
  | ran k => exact manned (Scheduler.accepts_runPending c.scheduler k)
  | cancelled k => exact manned (Scheduler.accepts_cancel c.scheduler k)
  | _ => rfl

end Collection

end Reencode
