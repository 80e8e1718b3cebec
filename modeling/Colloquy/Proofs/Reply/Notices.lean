import Mathlib.Data.List.Basic
import Mathlib.Data.List.DropRight
import Mathlib.Data.List.Induction
import Colloquy.Reply.Notice

/-!
# Notices over time

Notices are given one after the other, and now and then those that have been shown long enough are
dropped. What is shown is then always an end of all that was given: the longest one that is not too
long and has no notice in it that was found to be over.
-/

namespace Colloquy

/-- Something that happens to the notices. -/
inductive NoticeEvent where
  | given (notice : Notice)
  /-- Notices that are over at the time are dropped. -/
  | checked (now : Nat)
  deriving DecidableEq, Repr

/-- A notice that was given, and the times of all checks since then. -/
structure GivenNotice where
  notice : Notice
  checks : List Nat
  deriving DecidableEq, Repr

namespace GivenNotice

/-- A check finds that the notice has been shown for its lifetime. -/
def IsOver (lifetime : Nat) (given : GivenNotice) : Prop :=
  ∃ now ∈ given.checks, lifetime ≤ now - given.notice.created

/-- One more check. -/
def check (now : Nat) (given : GivenNotice) : GivenNotice :=
  { given with checks := given.checks ++ [now] }

theorem isOver_check_iff {lifetime now : Nat} {given : GivenNotice} :
    (given.check now).IsOver lifetime ↔
      given.IsOver lifetime ∨ lifetime ≤ now - given.notice.created := by
  simp [IsOver, check, or_and_right, exists_or]

/-- The first notice was given before the second one, and no later. -/
def Precedes (earlier later : GivenNotice) : Prop :=
  earlier.notice.created ≤ later.notice.created ∧ later.checks ⊆ earlier.checks

/-- Notices are over in the order in which they were given. -/
theorem Precedes.isOver {lifetime : Nat} {earlier later : GivenNotice}
    (order : earlier.Precedes later) (expired : later.IsOver lifetime) : earlier.IsOver lifetime := by
  obtain ⟨now, checked, old⟩ := expired
  have first := order.1
  exact ⟨now, order.2 checked, by omega⟩

/-- At any time the notices that have been shown long enough come before those that have not. -/
theorem exists_split {notices : List GivenNotice} (ordered : notices.Pairwise Precedes)
    (lifetime now : Nat) :
    ∃ expired kept, notices = expired ++ kept ∧
      (∀ given ∈ expired, lifetime ≤ now - given.notice.created) ∧
      ∀ given ∈ kept, now - given.notice.created < lifetime := by
  induction notices with
  | nil => exact ⟨[], [], rfl, by simp, by simp⟩
  | cons first rest ih =>
      obtain ⟨later, others⟩ := List.pairwise_cons.mp ordered
      by_cases fresh : now - first.notice.created < lifetime
      · refine ⟨[], first :: rest, rfl, by simp, List.forall_mem_cons.mpr ⟨fresh, ?_⟩⟩
        intro given among
        have order := (later given among).1
        omega
      · obtain ⟨expired, kept, rfl, overs, keeps⟩ := ih others
        exact ⟨first :: expired, kept, rfl,
          List.forall_mem_cons.mpr ⟨Nat.le_of_not_lt fresh, overs⟩, keeps⟩

end GivenNotice

namespace NoticeEvent

/-- The time of a check. -/
def time? : NoticeEvent → Option Nat
  | given _ => none
  | checked now => some now

/-- The notices given, each with the checks that come after it. -/
def history : List NoticeEvent → List GivenNotice
  | [] => []
  | given notice :: rest => ⟨notice, rest.filterMap time?⟩ :: history rest
  | checked _ :: rest => history rest

theorem history_given (events : List NoticeEvent) (notice : Notice) :
    history (events ++ [given notice]) = history events ++ [⟨notice, []⟩] := by
  induction events with
  | nil => rfl
  | cons event rest ih =>
      cases event with
      | given earlier => simp [history, ih, time?]
      | checked now => simp [history, ih]

theorem history_checked (events : List NoticeEvent) (now : Nat) :
    history (events ++ [checked now]) = (history events).map (GivenNotice.check now) := by
  induction events with
  | nil => rfl
  | cons event rest ih =>
      cases event with
      | given earlier => simp [history, ih, time?, GivenNotice.check]
      | checked other => simp [history, ih]

/-- No notice is given before one that was given earlier. -/
def Ordered (events : List NoticeEvent) : Prop :=
  (history events).Pairwise fun earlier later => earlier.notice.created ≤ later.notice.created

instance (events : List NoticeEvent) : Decidable (Ordered events) :=
  inferInstanceAs (Decidable (List.Pairwise _ _))

theorem Ordered.front {events : List NoticeEvent} {last : NoticeEvent}
    (ordered : Ordered (events ++ [last])) : Ordered events := by
  cases last with
  | given notice =>
      rw [Ordered, history_given] at ordered
      exact (List.pairwise_append.mp ordered).1
  | checked now =>
      rw [Ordered, history_checked, List.pairwise_map] at ordered
      exact ordered

/-- Each notice of the history precedes those that were given after it. -/
theorem Ordered.precedes {events : List NoticeEvent} (ordered : Ordered events) :
    (history events).Pairwise GivenNotice.Precedes := by
  refine List.Pairwise.and ordered ?_
  clear ordered
  have later : ∀ events : List NoticeEvent, ∀ given ∈ history events,
      given.checks ⊆ events.filterMap time? := by
    intro events
    induction events with
    | nil => simp [history]
    | cons event rest ih =>
        cases event with
        | given notice =>
            have same : (given notice :: rest).filterMap time? = rest.filterMap time? := rfl
            rw [same]
            exact List.forall_mem_cons.mpr ⟨List.Subset.refl _, ih⟩
        | checked now =>
            intro other among
            simpa [time?] using List.subset_cons_of_subset now (ih other among)
  induction events with
  | nil => exact .nil
  | cons event rest ih =>
      cases event with
      | given notice => exact .cons (later rest) ih
      | checked now => exact ih

/-- After a notice that is not over no notice is. -/
theorem Ordered.not_isOver {events : List NoticeEvent} (ordered : Ordered events) {lifetime : Nat}
    {before after : List GivenNotice} {given : GivenNotice}
    (split : history events = before ++ given :: after) (unended : ¬given.IsOver lifetime) :
    ∀ later ∈ after, ¬later.IsOver lifetime := by
  have inOrder := (List.pairwise_append.mp (split ▸ ordered.precedes)).2.1
  exact fun later among expired =>
    unended (((List.pairwise_cons.mp inOrder).1 later among).isOver expired)

end NoticeEvent

/-- The longest end of a list that is as required. -/
structure LongestSuffix {α : Type} (required : List α → Prop) (chosen list : List α) : Prop where
  isSuffix : chosen <:+ list
  meets : required chosen
  longest : ∀ other, other <:+ list → required other → other.length ≤ chosen.length

namespace Notices

/-- The notices after something happens. -/
def after (queue : Notices) : NoticeEvent → Notices
  | .given notice => queue.push notice
  | .checked now => (queue.dropExpired now).1

/-- The notices after several events. -/
def run (queue : Notices) (events : List NoticeEvent) : Notices :=
  events.foldl after queue

theorem run_concat (queue : Notices) (events : List NoticeEvent) (last : NoticeEvent) :
    queue.run (events ++ [last]) = (queue.run events).after last := by
  simp [run]

@[simp] theorem lifetime_run (queue : Notices) (events : List NoticeEvent) :
    (queue.run events).lifetime = queue.lifetime := by
  induction events using List.reverseRecOn with
  | nil => rfl
  | append_singleton events last ih =>
      rw [run_concat]
      cases last with
      | given notice => exact ih
      | checked now => exact ih

/-- Notices that can be shown together: not too many, and none of them over. -/
def CanShow (lifetime : Nat) (notices : List GivenNotice) : Prop :=
  notices.length ≤ capacity ∧ ∀ given ∈ notices, ¬given.IsOver lifetime

/-- The history up to some notice is past, and what was given since then is shown: there is no room
for more, or the last notice of the past is over. -/
structure Shows (lifetime : Nat) (shown : List Notice) (past present : List GivenNotice) :
    Prop where
  shown : shown = present.map GivenNotice.notice
  canShow : CanShow lifetime present
  full : present.length = capacity ∨ ∀ given ∈ past.getLast?, given.IsOver lifetime

namespace Shows

variable {lifetime : Nat} {shown : List Notice} {past present : List GivenNotice}

theorem longestSuffix (shows : Shows lifetime shown past present) :
    LongestSuffix (CanShow lifetime) present (past ++ present) where
  isSuffix := List.suffix_append past present
  meets := shows.canShow
  longest other suffix canShow := by
    rcases shows.full with full | ended
    · exact full ▸ canShow.1
    · by_contra longer
      rcases List.eq_nil_or_concat' past with rfl | ⟨before, last, rfl⟩
      · exact longer suffix.length_le
      · have inside : last :: present <:+ other := by
          refine List.suffix_of_suffix_length_le ⟨before, by simp⟩ suffix ?_
          exact Nat.lt_of_not_le longer
        exact canShow.2 last (inside.subset List.mem_cons_self) (ended last (by simp))

/-- A new notice takes the place of the oldest one if there is no room. -/
theorem push {queue : Notices} (shows : Shows lifetime queue.shown past present)
    (notice : Notice) :
    ∃ gone kept, past ++ present = gone ++ kept ∧
      Shows lifetime (queue.push notice).shown gone (kept ++ [⟨notice, []⟩]) := by
  have fresh : ¬GivenNotice.IsOver lifetime ⟨notice, []⟩ := by simp [GivenNotice.IsOver]
  have length : queue.shown.length = present.length := by rw [shows.shown, List.length_map]
  by_cases full : present.length = capacity
  · cases present with
    | nil => contradiction
    | cons oldest rest =>
        have room : rest.length + 1 = capacity := full
        refine ⟨past ++ [oldest], rest, by simp, ?_, ⟨?_, ?_⟩, .inl (by simpa using room)⟩
        · rw [Notices.push, if_pos (length.trans full), shows.shown]
          simp
        · exact Nat.le_of_eq (by simpa using room)
        · intro given among
          rcases List.mem_append.mp among with kept | new
          · exact shows.canShow.2 given (List.mem_cons_of_mem oldest kept)
          · exact List.mem_singleton.mp new ▸ fresh
  · have room : present.length < capacity := Nat.lt_of_le_of_ne shows.canShow.1 full
    refine ⟨past, present, rfl, ?_, ⟨?_, ?_⟩, .inr (shows.full.resolve_left full)⟩
    · rw [Notices.push, if_neg (by rwa [length]), shows.shown]
      simp
    · simpa using Nat.succ_le_of_lt room
    · intro given among
      rcases List.mem_append.mp among with kept | new
      · exact shows.canShow.2 given kept
      · exact List.mem_singleton.mp new ▸ fresh

/-- A check drops the notices in front that are over by then. -/
theorem dropExpired {queue : Notices} (same : queue.lifetime = lifetime)
    (shows : Shows lifetime queue.shown past present)
    (ordered : present.Pairwise GivenNotice.Precedes) (now : Nat) :
    ∃ gone kept, past ++ present = gone ++ kept ∧
      Shows lifetime (queue.dropExpired now).1.shown (gone.map (GivenNotice.check now))
        (kept.map (GivenNotice.check now)) := by
  subst same
  obtain ⟨expired, kept, rfl, overs, fresh⟩ := GivenNotice.exists_split ordered queue.lifetime now
  refine ⟨past ++ expired, kept, by rw [List.append_assoc], ?_, ⟨?_, ?_⟩, ?_⟩
  · have emptied : (expired.map GivenNotice.notice).filter (queue.isFresh now) = [] := by
      simpa [isFresh, List.filter_eq_nil_iff] using overs
    have whole : (kept.map GivenNotice.notice).filter (queue.isFresh now) =
        kept.map GivenNotice.notice := by
      simpa [isFresh, List.filter_eq_self] using fresh
    calc
      (queue.dropExpired now).1.shown = queue.shown.filter (queue.isFresh now) := rfl
      _ = kept.map GivenNotice.notice := by
        rw [shows.shown, List.map_append, List.filter_append, emptied, whole, List.nil_append]
      _ = (kept.map (GivenNotice.check now)).map GivenNotice.notice := by
        rw [List.map_map]
        rfl
  · have room := shows.canShow.1
    rw [List.length_append] at room
    rw [List.length_map]
    omega
  · intro given among
    obtain ⟨earlier, member, rfl⟩ := List.mem_map.mp among
    rw [GivenNotice.isOver_check_iff, not_or]
    exact ⟨shows.canShow.2 earlier (List.mem_append_right expired member),
      Nat.not_le_of_lt (fresh earlier member)⟩
  · rcases List.eq_nil_or_concat' expired with rfl | ⟨others, last, rfl⟩
    · rcases shows.full with full | ended
      · left
        rwa [List.length_map]
      · right
        intro given newest
        rw [List.append_nil, List.getLast?_map] at newest
        obtain ⟨earlier, same, rfl⟩ := Option.map_eq_some_iff.mp newest
        exact GivenNotice.isOver_check_iff.mpr (.inl (ended earlier same))
    · right
      intro given newest
      obtain rfl : last.check now = given := by simpa using newest
      exact GivenNotice.isOver_check_iff.mpr (.inr (overs last (by simp)))

end Shows

/-- What is shown is an end of what was given, as long as it can be. -/
theorem exists_shows (lifetime : Nat) {events : List NoticeEvent}
    (ordered : NoticeEvent.Ordered events) :
    ∃ past present, NoticeEvent.history events = past ++ present ∧
      Shows lifetime (run { lifetime } events).shown past present := by
  induction events using List.reverseRecOn with
  | nil => exact ⟨[], [], rfl, rfl, ⟨Nat.zero_le capacity, by simp⟩, .inr (by simp)⟩
  | append_singleton events last ih =>
      obtain ⟨past, present, split, shows⟩ := ih ordered.front
      rw [run_concat]
      cases last with
      | given notice =>
          obtain ⟨gone, kept, same, shows⟩ := shows.push notice
          refine ⟨gone, kept ++ [⟨notice, []⟩], ?_, by exact shows⟩
          rw [NoticeEvent.history_given, split, same, List.append_assoc]
      | checked now =>
          have inOrder := ordered.front.precedes
          rw [split] at inOrder
          obtain ⟨gone, kept, same, shows⟩ := shows.dropExpired (lifetime_run { lifetime } events)
            (List.pairwise_append.mp inOrder).2.1 now
          refine ⟨_, _, ?_, shows⟩
          rw [NoticeEvent.history_checked, split, same, List.map_append]

/-- A check tells whether it dropped anything, and a second one at the same time drops nothing. -/
theorem dropExpired_again (queue : Notices) (now : Nat) :
    ((queue.dropExpired now).2 = true ↔ (queue.dropExpired now).1.shown ≠ queue.shown) ∧
      (queue.dropExpired now).1.dropExpired now = ((queue.dropExpired now).1, false) := by
  constructor
  · have kept : queue.shown.filter (queue.isFresh now) = queue.shown ↔
        (queue.shown.filter (queue.isFresh now)).length = queue.shown.length :=
      (List.filter_sublist.length_eq).symm
    simp [dropExpired, kept]
  · have twice : (queue.shown.filter (queue.isFresh now)).filter (queue.isFresh now) =
        queue.shown.filter (queue.isFresh now) := by
      rw [List.filter_filter]
      simp
    have same : ∀ shown, ({ queue with shown } : Notices).isFresh now = queue.isFresh now :=
      fun shown => rfl
    simp [dropExpired, same, twice]

/-- A new notice is shown with the newest of those before it, up to four in all. -/
theorem shown_push {queue : Notices} (fits : queue.shown.length ≤ capacity) (notice : Notice) :
    (queue.push notice).shown = (queue.shown ++ [notice]).rtake capacity := by
  by_cases full : queue.shown.length = capacity
  · have oldest : (queue.shown ++ [notice]).drop 1 = queue.shown.drop 1 ++ [notice] :=
      List.drop_append_of_le_length (by rw [full]; decide)
    simp [push, full, List.rtake, oldest]
  · have room : queue.shown.length + 1 - capacity = 0 := by omega
    simp [push, full, List.rtake, room]

/-- All that is announced is shown in the order in which it is announced, after what was shown
before it: the newest four notices of both. -/
theorem shown_announce {queue : Notices} (fits : queue.shown.length ≤ capacity)
    (made : List Announcement) (now : Nat) :
    (queue.announce made now).shown =
      (queue.shown ++ made.map fun announcement => announcement.notice now).rtake capacity := by
  induction made using List.reverseRecOn with
  | nil =>
      have room : queue.shown.length - capacity = 0 := by omega
      simp [announce, List.rtake, room]
  | append_singleton earlier last ih =>
      have still : (queue.announce earlier now).shown.length ≤ capacity := by
        rw [ih, List.rtake, List.length_drop]
        omega
      have grows : queue.announce (earlier ++ [last]) now =
          (queue.announce earlier now).push (last.notice now) := by
        simp [announce]
      rw [grows, shown_push still, ih]
      simp [List.rtake_eq_reverse_take_reverse, capacity, List.take_take]

/-- After any run what is shown is the longest end of all notices given that has no more than four
notices and none that a check found to be over. A notice that is not over is thus shown unless four
others were given after it, and the newest of those that are not over is always shown. -/
theorem shown_of_run (lifetime : Nat) {events : List NoticeEvent}
    (ordered : NoticeEvent.Ordered events) :
    let queue := run { lifetime } events
    (∃ present, LongestSuffix (CanShow lifetime) present (NoticeEvent.history events) ∧
      queue.shown = present.map GivenNotice.notice) ∧
    (∀ before given after, NoticeEvent.history events = before ++ given :: after →
      ¬given.IsOver lifetime →
        (after.length < capacity →
          (given :: after).map GivenNotice.notice <:+ queue.shown) ∧
        ((∀ later ∈ after, later.IsOver lifetime) → queue.latest? = some given.notice)) ∧
    (∀ now, ((queue.dropExpired now).2 = true ↔ (queue.dropExpired now).1.shown ≠ queue.shown) ∧
      (queue.dropExpired now).1.dropExpired now = ((queue.dropExpired now).1, false)) := by
  intro queue
  obtain ⟨past, present, whole, shows⟩ := exists_shows lifetime ordered
  have longest := whole ▸ shows.longestSuffix
  have kept : ∀ before given after, NoticeEvent.history events = before ++ given :: after →
      ¬given.IsOver lifetime → after.length < capacity →
        (given :: after).map GivenNotice.notice <:+ queue.shown := by
    intro before given after split unended few
    have canShow : CanShow lifetime (given :: after) :=
      ⟨few, List.forall_mem_cons.mpr ⟨unended, ordered.not_isOver split unended⟩⟩
    have isEnd : given :: after <:+ NoticeEvent.history events := ⟨before, split.symm⟩
    rw [shows.shown]
    exact (List.suffix_of_suffix_length_le isEnd longest.isSuffix
      (longest.longest _ isEnd canShow)).map GivenNotice.notice
  refine ⟨⟨present, longest, shows.shown⟩, fun before given after split unended =>
    ⟨kept before given after split unended, fun overs => ?_⟩, fun now => dropExpired_again queue now⟩
  obtain rfl : after = [] := by
    rw [List.eq_nil_iff_forall_not_mem]
    exact fun later among => ordered.not_isOver split unended later among (overs later among)
  obtain ⟨front, split⟩ := kept before given [] split unended (by decide)
  rw [latest?, ← split]
  simp

/-- Six notices, a check by which the first one is over, and one with a clock that was set back. -/
def crowdedEvents : List NoticeEvent :=
  [.given ⟨.success, "a", 0⟩, .given ⟨.error, "b", 10⟩, .checked 50, .given ⟨.success, "c", 60⟩,
    .given ⟨.success, "d", 60⟩, .given ⟨.error, "e", 61⟩, .checked 5, .given ⟨.success, "f", 70⟩]

/-- The first one was dropped in time, and the second one early, for there were four newer ones. -/
theorem shown_of_run_crowded :
    NoticeEvent.Ordered crowdedEvents ∧
    (∃ present, LongestSuffix (CanShow 50) present (NoticeEvent.history crowdedEvents) ∧
      (run { lifetime := 50 } crowdedEvents).shown = present.map GivenNotice.notice ∧
      present.map (fun given => given.notice.message) = ["c", "d", "e", "f"]) ∧
    (run { lifetime := 50 } crowdedEvents).latest? = some ⟨.success, "f", 70⟩ := by
  have ordered : NoticeEvent.Ordered crowdedEvents := by decide
  obtain ⟨⟨present, longest, shown⟩, kept, -⟩ := shown_of_run 50 ordered
  have messages : (run { lifetime := 50 } crowdedEvents).shown.map Notice.message =
      ["c", "d", "e", "f"] := by decide
  rw [shown, List.map_map] at messages
  have split : NoticeEvent.history crowdedEvents =
      (NoticeEvent.history crowdedEvents).dropLast ++ [⟨⟨.success, "f", 70⟩, []⟩] := by decide
  have unended : ¬GivenNotice.IsOver 50 ⟨⟨.success, "f", 70⟩, []⟩ := by simp [GivenNotice.IsOver]
  exact ⟨ordered, ⟨present, longest, shown, messages⟩, (kept _ _ [] split unended).2 (by simp)⟩

end Notices

end Colloquy
