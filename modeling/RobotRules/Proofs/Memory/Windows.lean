import Mathlib.Data.List.Infix
import RobotRules.Proofs.Memory.WriteLog

/-! Windows of a history. The times of a history never run backwards, whatever the clock does,
so what lies in a window of time stands together in the history. Where one window ends just
before the next one begins, the two make up one window, with no gap and no overlap. -/

namespace RobotRules

section Ordered

variable {α : Type} {isFirst : α → Bool} {items : List α}

/-- Where all that fulfils a condition stands before all that does not, the two parts make up
the list. -/
theorem filter_append_filter_not
    (ordered : items.Pairwise fun earlier later => isFirst later = true → isFirst earlier = true) :
    items.filter isFirst ++ items.filter (fun item => !isFirst item) = items := by
  induction items with
  | nil => rfl
  | cons item rest induction =>
      rw [List.pairwise_cons] at ordered
      by_cases first : isFirst item = true
      · rw [List.filter_cons_of_pos first, List.filter_cons_of_neg (by simp [first]),
          List.cons_append, induction ordered.2]
      · have noneLater : rest.filter isFirst = [] :=
          List.filter_eq_nil_iff.mpr fun later member found =>
            first (ordered.1 later member found)
        have allLater : rest.filter (fun item => !isFirst item) = rest := by
          simpa [noneLater] using induction ordered.2
        rw [List.filter_cons_of_neg first, List.filter_cons_of_pos (by simp [first]), noneLater,
          allLater, List.nil_append]

theorem filter_prefix_of_ordered
    (ordered : items.Pairwise fun earlier later => isFirst later = true → isFirst earlier = true) :
    items.filter isFirst <+: items :=
  ⟨_, filter_append_filter_not ordered⟩

/-- What fulfils a condition that all later items fulfil too is the end of the list. -/
theorem filter_suffix_of_ordered {isLast : α → Bool}
    (ordered : items.Pairwise fun earlier later => isLast earlier = true → isLast later = true) :
    items.filter isLast <:+ items := by
  have split := @filter_append_filter_not α (fun item => !isLast item) items
    (ordered.imp fun lasting => by simpa using mt lasting)
  simp only [Bool.not_not] at split
  exact ⟨_, split⟩

end Ordered

theorem Named.find?_mapThings {α β : Type} (f : α → β) (name : Value) (named : Named α) :
    Named.find? name (named.map fun entry => (entry.1, f entry.2)) =
      (named.find? name).map f := by
  induction named with
  | nil => rfl
  | cons entry rest induction =>
      rw [List.map_cons, Named.find?, Named.find?, induction]
      split_ifs <;> rfl

namespace Memory

variable {entries : List Entry} {start finish : Option Int}

/-- Times do not run backwards. -/
def InOrder (entries : List Entry) : Prop :=
  entries.Pairwise fun earlier later => earlier.timestamp ≤ later.timestamp

theorem within_iff {entry : Entry} :
    within start finish entry = true ↔
      (∀ time ∈ start, time ≤ entry.timestamp) ∧ ∀ time ∈ finish, entry.timestamp ≤ time := by
  cases start <;> cases finish <;> simp [within]

/-- Up to a time inside it, a window is the window that ends there. -/
theorem within_and_le {middle : Int} (before : ∀ time ∈ finish, middle ≤ time) (entry : Entry) :
    (within start finish entry && decide (entry.timestamp ≤ middle)) =
      within start (some middle) entry := by
  rw [Bool.eq_iff_iff, Bool.and_eq_true, within_iff, within_iff, decide_eq_true_iff]
  constructor
  · rintro ⟨⟨since, _⟩, early⟩
    exact ⟨since, by simpa using early⟩
  · rintro ⟨since, upTo⟩
    have early : entry.timestamp ≤ middle := upTo middle rfl
    exact ⟨⟨since, fun time member => early.trans (before time member)⟩, early⟩

/-- Behind a time inside it, a window is the window that begins there. -/
theorem within_and_not_le {middle : Int} (behind : ∀ time ∈ start, time ≤ middle + 1)
    (entry : Entry) :
    (within start finish entry && !decide (entry.timestamp ≤ middle)) =
      within (some (middle + 1)) finish entry := by
  rw [Bool.eq_iff_iff, Bool.and_eq_true, within_iff, within_iff, Bool.not_eq_true',
    decide_eq_false_iff_not]
  constructor
  · rintro ⟨⟨_, upTo⟩, late⟩
    exact ⟨by simpa using Int.add_one_le_of_lt (not_le.mp late), upTo⟩
  · rintro ⟨since, upTo⟩
    have late : middle + 1 ≤ entry.timestamp := since (middle + 1) rfl
    exact ⟨⟨fun time member => (behind time member).trans late, upTo⟩,
      not_le.mpr (Int.lt_of_add_one_le late)⟩

namespace InOrder

theorem filter_within_append (ordered : InOrder entries) {middle : Int}
    (behind : ∀ time ∈ start, time ≤ middle + 1) (before : ∀ time ∈ finish, middle ≤ time) :
    entries.filter (within start (some middle)) ++
        entries.filter (within (some (middle + 1)) finish) =
      entries.filter (within start finish) := by
  have parts : entries.filter (fun entry => decide (entry.timestamp ≤ middle)) ++
      entries.filter (fun entry => !decide (entry.timestamp ≤ middle)) = entries :=
    filter_append_filter_not (ordered.imp fun order early => by
      simpa using order.trans (of_decide_eq_true early))
  calc entries.filter (within start (some middle)) ++
        entries.filter (within (some (middle + 1)) finish)
    _ = (entries.filter fun entry => decide (entry.timestamp ≤ middle)).filter
          (within start finish) ++
        (entries.filter fun entry => !decide (entry.timestamp ≤ middle)).filter
          (within start finish) := by
        simp only [List.filter_filter, within_and_le before, within_and_not_le behind]
    _ = entries.filter (within start finish) := by rw [← List.filter_append, parts]

theorem filter_within_infix (ordered : InOrder entries) (start finish : Option Int) :
    entries.filter (within start finish) <:+: entries := by
  have ends : entries.filter (within none finish) <+: entries :=
    filter_prefix_of_ordered (ordered.imp fun order early => by
      rw [within_iff] at early ⊢
      exact ⟨nofun, fun time member => order.trans (early.2 time member)⟩)
  have begins : (entries.filter (within none finish)).filter (within start none) <:+
      entries.filter (within none finish) :=
    filter_suffix_of_ordered ((ordered.filter _).imp fun order late => by
      rw [within_iff] at late ⊢
      exact ⟨fun time member => (late.1 time member).trans order, nofun⟩)
  have both : (entries.filter (within none finish)).filter (within start none) =
      entries.filter (within start finish) := by
    rw [List.filter_filter]
    congr
    funext entry
    simp [within]
  rw [← both]
  exact begins.isInfix.trans ends.isInfix

end InOrder

/-- Whatever was done and however the clock ran, the times of a history are in order. -/
theorem inOrder_entries_run (changes : List Change) (name : Name) :
    InOrder ((run changes).entries name.val) := by
  rw [(refines_run changes).entries_eq name]
  have stamped : (WriteLog.ofRun changes).stamped.Pairwise fun earlier later =>
      earlier.2.timestamp ≤ later.2.timestamp :=
    List.pairwise_map.mp (WriteLog.pairwise_timestamp _)
  exact List.pairwise_map.mpr (stamped.drop.filter _)

theorem find?_windows (start finish : Option Int) (name : Value) (memory : Memory) :
    (memory.windows start finish).find? name =
      (memory.history.find? name).map (·.filter (within start finish)) :=
  Named.find?_mapThings _ name memory.history

/-- Whatever was done and however the clock ran, two windows of a history that meet make up one
window, and a missing bound lies beyond all times. Every window stands together in the history,
and the windows of all histories at once are the windows of each. -/
theorem windows_tile (changes : List Change) (name : Name) :
    let memory := run changes
    (∀ start middle finish, (∀ time ∈ start, time ≤ middle + 1) →
      (∀ time ∈ finish, middle ≤ time) →
      memory.window name.val start (some middle) ++
          memory.window name.val (some (middle + 1)) finish =
        memory.window name.val start finish) ∧
      (∀ start finish,
        memory.window name.val start finish <:+: memory.window name.val none none) ∧
      ∀ start finish, (memory.windows start finish).find? name.val =
        if memory.hasHistory name.val then some (memory.window name.val start finish)
        else none := by
  intro memory
  have ordered : InOrder (memory.entries name.val) := inOrder_entries_run changes name
  have whole : memory.window name.val none none = memory.entries name.val :=
    List.filter_eq_self.mpr fun _ _ => rfl
  refine ⟨fun start middle finish behind before => ordered.filter_within_append behind before,
    fun start finish => ?_, fun start finish => ?_⟩
  · rw [whole]
    exact ordered.filter_within_infix start finish
  · rw [find?_windows, hasHistory, window, Memory.entries]
    cases memory.history.find? name.val <;> rfl

/-- The clock is set back, and memory is reset in between. -/
example :
    let name : Name := ⟨.text "mood", rfl⟩
    let memory := run [.write 7 name (.integer 1), .reset, .write 2 name (.integer 2),
      .write 9 name (.integer 3)]
    (memory.window name.val none (some 7)).map Entry.timestamp = [7] ∧
      (memory.window name.val (some 8) none).map Entry.timestamp = [9] := by decide

end Memory

end RobotRules
