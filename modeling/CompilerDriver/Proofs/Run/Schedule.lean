import CompilerDriver.Proofs.Run.Launches

/-!
When the files of a batch take their turns. Files start in input order, and a file starts as soon as
the file that is as many places before it as there are jobs has left: at the latest end among the
files up to that one. An end can only be late when a file in front of it is slower, and then that
file's own end is the later one.
-/

namespace CompilerDriver.Run

/-- The turn of a file: its call, if it makes one, and when it starts and ends. -/
structure Turn where
  call? : Option Call
  start : Nat
  finish : Nat

namespace Turn

def started? (turn : Turn) : Option (Nat × Call) :=
  turn.call?.map fun call => (turn.start, call)

def ended? (turn : Turn) : Option (Nat × Nat) :=
  turn.call?.map fun call => (turn.finish, call.index)

/-- A turn takes as long as the runner takes over its call; one without a call takes no time. -/
def Lasts (runner : Runner) (turn : Turn) : Prop :=
  match turn.call? with
  | some call => ∃ tree, turn.finish = turn.start + (runner call tree).duration
  | none => turn.finish = turn.start

end Turn

/-- The latest end among turns, and the origin when there are none. -/
def latest (origin : Nat) (turns : List Turn) : Nat :=
  turns.foldr (fun turn later => max turn.finish later) origin

/-- Every file starts at the latest end among the files that had to leave before it. -/
def Follows (jobs origin : Nat) (turns : List Turn) : Prop :=
  ∀ index turn, turns[index]? = some turn →
    turn.start = latest origin (turns.take (index + 1 - jobs))

@[simp] theorem latest_nil (origin : Nat) : latest origin [] = origin := rfl

@[simp] theorem latest_cons (origin : Nat) (turn : Turn) (rest : List Turn) :
    latest origin (turn :: rest) = max turn.finish (latest origin rest) := rfl

theorem latest_append (origin : Nat) (left right : List Turn) :
    latest origin (left ++ right) = max (latest origin left) (latest origin right) := by
  induction left with
  | nil =>
      induction right with
      | nil => exact (Nat.max_self origin).symm
      | cons turn rest ih =>
          simp only [List.nil_append, latest_nil, latest_cons] at ih ⊢
          omega
  | cons turn rest ih =>
      rw [List.cons_append, latest_cons, latest_cons, ih, Nat.max_assoc]

theorem latest_le_of_beginning {origin : Nat} {front turns : List Turn} (frontOf : front <+: turns) :
    latest origin front ≤ latest origin turns := by
  obtain ⟨back, rfl⟩ := frontOf
  rw [latest_append]
  exact Nat.le_max_left _ _

theorem finish_le_latest {origin : Nat} {turns : List Turn} {turn : Turn}
    (member : turn ∈ turns) : turn.finish ≤ latest origin turns := by
  induction turns with
  | nil => cases member
  | cons head rest ih =>
      rw [latest_cons]
      rcases List.mem_cons.mp member with same | later
      · rw [same]
        exact Nat.le_max_left _ _
      · exact Nat.le_trans (ih later) (Nat.le_max_right _ _)

theorem origin_le_latest (origin : Nat) (turns : List Turn) : origin ≤ latest origin turns := by
  have nothing : latest origin [] = origin := rfl
  rw [← nothing]
  exact latest_le_of_beginning ⟨turns, List.nil_append turns⟩

theorem Follows.snoc {jobs origin : Nat} {turns : List Turn} {turn : Turn} (several : 1 ≤ jobs)
    (before : Follows jobs origin turns)
    (onTime : turn.start = latest origin (turns.take (turns.length + 1 - jobs))) :
    Follows jobs origin (turns ++ [turn]) := by
  intro index other found
  have inside : index < turns.length + 1 := by
    have bound := (List.getElem?_eq_some_iff.mp found).1
    rwa [List.length_append, List.length_singleton] at bound
  rw [List.take_append_of_le_length (by omega)]
  by_cases earlier : index < turns.length
  · rw [List.getElem?_append_left earlier] at found
    exact before index other found
  · have last : index = turns.length := by omega
    subst last
    rw [List.getElem?_concat_length, Option.some.injEq] at found
    subst found
    exact onTime

def Stay.turn (runner : Runner) (stay : Stay) : Turn :=
  { call? := stay.call?, start := stay.time, finish := stay.finish runner }

theorem Stay.turn_lasts (runner : Runner) (stay : Stay) : (stay.turn runner).Lasts runner := by
  obtain ⟨file, time, launch?⟩ := stay
  cases launch? with
  | none => rfl
  | some launch => exact ⟨launch.2, rfl⟩

def turns (runner : Runner) (stays : List Stay) : List Turn :=
  stays.map (Stay.turn runner)

theorem turns_snoc (runner : Runner) (stays : List Stay) (stay : Stay) :
    turns runner (stays ++ [stay]) = turns runner stays ++ [stay.turn runner] := by
  unfold turns
  rw [List.map_append, List.map_singleton]

theorem turns_length (runner : Runner) (stays : List Stay) :
    (turns runner stays).length = stays.length :=
  List.length_map _

variable {configuration : Configuration} {image : Path} {runner : Runner} {first : World}

theorem Reached.unended {batch : Batch} {stays : List Stay}
    (reached : Reached configuration image runner first batch stays) :
    ∀ step, Slot.compiling step ∈ batch.window → batch.world.time ≤ step.flight.finish := by
  induction reached with
  | start =>
      intro step member
      cases member
  | leave before ih =>
      intro step member
      exact ih step (List.mem_cons_of_mem _ member)
  | refuse before unsettled room unnamed ih =>
      intro step member
      rcases List.mem_append.mp member with old | new
      · exact ih step old
      · cases List.mem_singleton.mp new
  | launch before unsettled room named ih =>
      intro step member
      rcases List.mem_append.mp member with old | new
      · exact ih step old
      · cases List.mem_singleton.mp new
        exact Nat.le_add_right _ _
  | @land world done front landing back waiting stays before due ih =>
      intro step member
      have present : Slot.compiling step ∈ front ++ Slot.compiling landing :: back := by
        rcases List.mem_append.mp member with inFront | inBack
        · exact List.mem_append_left _ inFront
        · rcases List.mem_cons.mp inBack with impossible | later
          · cases impossible
          · exact List.mem_append_right _ (List.mem_cons_of_mem _ later)
      rw [endCompile_eq]
      refine Nat.max_le.mpr ⟨ih step present, ?_⟩
      rcases due with instant | due
      · exact Nat.le_trans instant (ih step present)
      · exact due.earliest _ present _ rfl

theorem Reached.land_time {world : World} {done : List StepReport} {front back : List Slot}
    {step : Compiling} {waiting : List Path} {stays : List Stay}
    (before : Reached configuration image runner first
      ⟨world, done, front ++ .compiling step :: back, waiting⟩ stays) :
    (endCompile configuration step world).2.time = step.flight.finish := by
  rw [endCompile_eq]
  exact Nat.max_eq_right (before.unended step (by simp))

theorem Reached.origin_le {batch : Batch} {stays : List Stay}
    (reached : Reached configuration image runner first batch stays) :
    first.time ≤ batch.world.time := by
  induction reached with
  | start => exact Nat.le_refl _
  | leave before ih => exact ih
  | refuse before unsettled room unnamed ih => exact ih
  | launch before unsettled room named ih => exact ih
  | land before due ih =>
      rw [endCompile_eq]
      exact Nat.le_trans ih (Nat.le_max_left _ _)

/-- A finished place has had its turn, and one at work ends when its turn does. -/
def Timed (runner : Runner) (now : Nat) (stay : Stay) : Slot → Prop
  | .finished _ => stay.finish runner ≤ now
  | .compiling step => step.flight.finish = stay.finish runner

theorem Timed.later {now later : Nat} {stay : Stay} {slot : Slot}
    (timed : Timed runner now stay slot) (after : now ≤ later) :
    Timed runner later stay slot := by
  cases slot with
  | finished report => exact Nat.le_trans timed after
  | compiling step => exact timed

theorem Reached.timed {batch : Batch} {stays : List Stay}
    (reached : Reached configuration image runner first batch stays) :
    List.Forall₂ (Timed runner batch.world.time) stays batch.slots := by
  induction reached with
  | start => exact .nil
  | leave before ih => simpa [Batch.slots] using ih
  | @refuse world done window file waiting stays error before unsettled room unnamed ih =>
      change List.Forall₂ _ _ (done.map _ ++ (window ++ [_]))
      rw [← List.append_assoc]
      exact List.rel_append ih (.cons (Nat.le_refl world.time) .nil)
  | @launch world done window file waiting stays target before unsettled room named ih =>
      change List.Forall₂ _ _ (done.map _ ++ (window ++ [_]))
      rw [← List.append_assoc]
      exact List.rel_append ih (.cons rfl .nil)
  | @land world done front step back waiting stays before due ih =>
      have landed := before.land_time
      have later : world.time ≤ (endCompile configuration step world).2.time := by
        rw [landed]
        exact before.unended step (by simp)
      have kept := ih.imp fun _ _ timed => timed.later later
      change List.Forall₂ _ _ (done.map _ ++ (front ++ _ :: back)) at kept ⊢
      rw [← List.append_assoc] at kept ⊢
      refine forall₂_replace kept ?_
      intro stay timed
      change step.flight.finish = stay.finish runner at timed
      change stay.finish runner ≤ _
      rw [landed]
      exact Nat.le_of_eq timed.symm

theorem latest_le_of_timed {origin now : Nat} {stays : List Stay} {reports : List StepReport}
    (early : origin ≤ now) (timed : List.Forall₂ (Timed runner now) stays (reports.map .finished)) :
    latest origin (turns runner stays) ≤ now := by
  induction reports generalizing stays with
  | nil =>
      cases timed
      exact early
  | cons report rest ih =>
      cases timed with
      | cons head tail => exact Nat.max_le.mpr ⟨head, ih tail⟩

theorem Reached.latest_done_le {batch : Batch} {stays : List Stay}
    (reached : Reached configuration image runner first batch stays) :
    latest first.time ((turns runner stays).take batch.done.length) ≤ batch.world.time := by
  have timed := List.forall₂_take_append _ _ _ reached.timed
  rw [List.length_map] at timed
  rw [turns, ← List.map_take]
  exact latest_le_of_timed reached.origin_le timed

theorem Reached.entered {batch : Batch} {stays : List Stay}
    (reached : Reached configuration image runner first batch stays) :
    stays.length = batch.done.length + batch.window.length := by
  rw [reached.traced.length_eq, Batch.slots, List.length_append, List.length_map]

theorem Reached.compiling_finish {world : World} {done : List StepReport} {step : Compiling}
    {front back : List Slot} {waiting : List Path} {stays : List Stay}
    (reached : Reached configuration image runner first
      ⟨world, done, front ++ .compiling step :: back, waiting⟩ stays) :
    step.flight.finish ≤
      latest first.time ((turns runner stays).take (done.length + front.length + 1)) := by
  have timed : List.Forall₂ _ stays (done.map Slot.finished ++ (front ++ _ :: back)) :=
    reached.timed
  rw [← List.append_assoc] at timed
  have rest := List.forall₂_drop_append _ _ _ timed
  rw [List.length_append, List.length_map] at rest
  cases dropped : stays.drop (done.length + front.length) with
  | nil =>
      rw [dropped] at rest
      cases rest
  | cons stay others =>
      rw [dropped] at rest
      cases rest with
      | cons head tail =>
          have ends : step.flight.finish = stay.finish runner := head
          rw [ends]
          have member : stay.turn runner ∈
              (turns runner stays).take (done.length + front.length + 1) := by
            rw [turns, ← List.map_take, List.take_add_one, ← List.head?_drop, dropped]
            exact List.mem_map.mpr ⟨stay, List.mem_append_right _ List.mem_cons_self, rfl⟩
          exact finish_le_latest member

theorem take_prefix_snoc {α : Type} {short long : Nat} (items : List α) (item : α)
    (le : short ≤ long) : items.take short <+: (items ++ [item]).take long := by
  have begins : items.take short <+: items := List.take_prefix short items
  exact List.prefix_take_iff.mpr
    ⟨begins.trans (List.prefix_append items [item]),
      Nat.le_trans (List.length_take_le short items) le⟩

theorem latest_snoc_le (origin jobs : Nat) (stays : List Stay) (stay : Stay) :
    latest origin ((turns runner stays).take (stays.length + 1 - jobs)) ≤
      latest origin
        ((turns runner (stays ++ [stay])).take ((stays ++ [stay]).length + 1 - jobs)) := by
  rw [turns_snoc, List.length_append, List.length_singleton]
  exact latest_le_of_beginning (take_prefix_snoc _ _ (by omega))

theorem Unsettled.other_tail {slot : Slot} {tail : List Slot} (unsettled : Unsettled (slot :: tail))
    (other : List Slot) : Unsettled (slot :: other) := by
  intro report rest same
  obtain ⟨here, _⟩ := List.cons.inj same
  exact unsettled report tail (by rw [here])

/-- Whenever a file can leave or enter, time stands at the latest end among the files that had to
leave before the next one. -/
theorem Reached.pressing {batch : Batch} {stays : List Stay}
    (reached : Reached configuration image runner first batch stays)
    (someWait : batch.waiting ≠ [])
    (openPlace : Unsettled batch.window → batch.window.length < configuration.jobs) :
    batch.world.time ≤
      latest first.time ((turns runner stays).take (stays.length + 1 - configuration.jobs)) := by
  -- Time moves only when a call ends, so the ends are where the argument is: either the end is due
  -- at the time that it is, or nothing could enter before it.
  induction reached with
  | start => exact origin_le_latest _ _
  | @leave world done report window waiting stays before ih =>
      exact ih someWait fun unsettled => absurd rfl (unsettled report window)
  | @refuse world done window file waiting stays error before unsettled room unnamed ih =>
      exact Nat.le_trans (ih (List.cons_ne_nil _ _) fun _ => room) (latest_snoc_le _ _ stays _)
  | @launch world done window file waiting stays target before unsettled room named ih =>
      exact Nat.le_trans (ih (List.cons_ne_nil _ _) fun _ => room) (latest_snoc_le _ _ stays _)
  | @land world done front step back waiting stays before due ih =>
      have entered : stays.length = done.length + (front ++ .compiling step :: back).length :=
        before.entered
      have still : step.flight.finish ≤ world.time →
          (endCompile configuration step world).2.time = world.time := by
        intro instant
        rw [before.land_time]
        exact Nat.le_antisymm instant (before.unended step (by simp))
      -- Only the end of the front slot lets files leave.
      cases front with
      | nil =>
          by_cases room : (Slot.compiling step :: back).length < configuration.jobs
          · have instant : step.flight.finish ≤ world.time := by
              rcases due with instant | due
              · exact instant
              · exact absurd (due.full.resolve_left someWait) (Nat.not_le_of_lt room)
            rw [still instant]
            exact ih someWait fun _ => room
          · -- A full window whose front ends: the next file has waited for just this end.
            rw [before.land_time]
            refine Nat.le_trans before.compiling_finish (latest_le_of_beginning ?_)
            simp only [List.nil_append] at entered
            exact List.take_prefix_take_left (by simp only [List.length_nil]; omega)
      | cons slot rest =>
          have sameLength : (slot :: rest ++ .compiling step :: back).length =
              (slot :: rest ++ .finished (endCompile configuration step world).1 :: back).length := by
            simp only [List.length_append, List.length_cons]
          rcases due with instant | due
          · rw [still instant]
            refine ih someWait fun unsettled => ?_
            rw [sameLength]
            exact openPlace (unsettled.other_tail _)
          · have room := openPlace (due.unsettled.other_tail _)
            rw [← sameLength] at room
            exact absurd (due.full.resolve_left someWait) (Nat.not_le_of_lt room)

theorem Reached.onTime {world : World} {done : List StepReport} {window : List Slot} {file : Path}
    {waiting : List Path} {stays : List Stay}
    (before : Reached configuration image runner first ⟨world, done, window, file :: waiting⟩ stays)
    (room : window.length < configuration.jobs) :
    world.time =
      latest first.time
        ((turns runner stays).take ((turns runner stays).length + 1 - configuration.jobs)) := by
  have entered : stays.length = done.length + window.length := before.entered
  rw [turns_length]
  refine Nat.le_antisymm (before.pressing (List.cons_ne_nil _ _) fun _ => room) ?_
  refine Nat.le_trans (latest_le_of_beginning ?_) before.latest_done_le
  exact List.take_prefix_take_left (by change _ ≤ done.length; omega)

theorem Reached.follows {batch : Batch} {stays : List Stay}
    (reached : Reached configuration image runner first batch stays) :
    Follows configuration.jobs first.time (turns runner stays) := by
  induction reached with
  | start =>
      intro index turn found
      cases found
  | leave before ih => exact ih
  | refuse before unsettled room unnamed ih =>
      rw [turns_snoc]
      exact ih.snoc (by omega) (before.onTime room)
  | launch before unsettled room named ih =>
      rw [turns_snoc]
      exact ih.snoc (by omega) (before.onTime room)
  | land before due ih => exact ih

/-- Time never runs ahead of the latest end. -/
theorem Reached.time_le {batch : Batch} {stays : List Stay}
    (reached : Reached configuration image runner first batch stays) :
    batch.world.time ≤ latest first.time (turns runner stays) := by
  induction reached with
  | start => exact Nat.le_refl _
  | leave before ih => exact ih
  | refuse before unsettled room unnamed ih =>
      rw [turns_snoc]
      exact Nat.le_trans ih (latest_le_of_beginning (List.prefix_append _ _))
  | launch before unsettled room named ih =>
      rw [turns_snoc]
      exact Nat.le_trans ih (latest_le_of_beginning (List.prefix_append _ _))
  | @land world done front step back waiting stays before due ih =>
      rw [before.land_time]
      refine Nat.le_trans before.compiling_finish (latest_le_of_beginning ?_)
      exact List.take_prefix _ _

/-! ### Starts and ends in the trace -/

theorem Reached.starts_turns {batch : Batch} {stays : List Stay}
    (reached : Reached configuration image runner first batch stays) :
    batch.world.starts = first.starts ++ (turns runner stays).filterMap Turn.started? := by
  rw [reached.starts, turns, List.filterMap_map]
  rfl

def Slot.ended? : Slot → Option (Nat × Nat)
  | .finished _ => none
  | .compiling step => some (step.flight.finish, step.flight.index)

theorem Reached.ends_turns {batch : Batch} {stays : List Stay}
    (reached : Reached configuration image runner first batch stays) :
    (batch.world.ends ++ batch.window.filterMap Slot.ended?).Perm
      (first.ends ++ (turns runner stays).filterMap Turn.ended?) := by
  induction reached with
  | start => exact List.Perm.refl _
  | leave before ih => exact ih
  | @refuse world done window file waiting stays error before unsettled room unnamed ih =>
      rw [turns_snoc, List.filterMap_append, List.filterMap_append]
      change (_ ++ (_ ++ [])).Perm (_ ++ (_ ++ []))
      rw [List.append_nil, List.append_nil]
      exact ih
  | @launch world done window file waiting stays target before unsettled room named ih =>
      have same : (afterOpening configuration image runner file world).ends = world.ends := by
        unfold World.ends afterOpening
        rw [Event.ends_append, ends_openingEvents, List.append_nil]
      rw [turns_snoc, List.filterMap_append, List.filterMap_append, same, ← List.append_assoc,
        ← List.append_assoc]
      exact ih.append_right _
  | @land world done front step back waiting stays before due ih =>
      have landed : (endCompile configuration step world).2.ends =
          world.ends ++ [(step.flight.finish, step.flight.index)] := by
        rw [← before.land_time, endCompile_eq]
        unfold World.ends
        rw [Event.ends_append, ends_closingEvents]
      refine List.Perm.trans ?_ ih
      rw [landed, List.filterMap_append, List.filterMap_append]
      simp only [List.filterMap_cons, Slot.ended?, List.append_assoc, List.singleton_append]
      exact List.Perm.append_left _ List.perm_middle.symm

/-- The calls that have started in a trace and have not ended in it. -/
def inFlight (trace : List Event) : List Call :=
  ((Event.starts trace).map Prod.snd).filter fun call =>
    decide (call.index ∉ (Event.ends trace).map Prod.snd)

def Slot.index? : Slot → Option Nat
  | .finished _ => none
  | .compiling step => some step.flight.index

/-- What events say about the calls at work: each one has a number of its own, below those that are
still to be given out, and there were never more of them than jobs. -/
structure Crew (jobs calls : Nat) (working : List Nat) (events : List Event) : Prop where
  atWork : (inFlight events).map Call.index = working
  distinct : working.Nodup
  numbered : ∀ index ∈ working, index < calls
  landed : ∀ index ∈ (Event.ends events).map Prod.snd, index < calls
  bounded : ∀ front, front <+: events → (inFlight front).length ≤ jobs

theorem prefix_append_cases {α : Type} {front left right : List α}
    (frontOf : front <+: left ++ right) :
    front <+: left ∨ ∃ more, more <+: right ∧ front = left ++ more := by
  rcases List.prefix_or_prefix_of_prefix frontOf (List.prefix_append left right) with
    short | long
  · exact Or.inl short
  · obtain ⟨more, rfl⟩ := long
    exact Or.inr ⟨more, (List.prefix_append_right_inj left).mp frontOf, rfl⟩

theorem inFlight_length_le (events more : List Event) :
    (inFlight (events ++ more)).length ≤
      (inFlight events).length + (Event.starts more).length := by
  unfold inFlight
  rw [Event.starts_append, Event.ends_append, List.map_append, List.map_append,
    List.filter_append, List.length_append]
  refine Nat.add_le_add ?_ ?_
  · refine (List.monotone_filter_right _ ?_).length_le
    intro call openCall
    simp only [List.mem_append, decide_eq_true_eq, not_or] at openCall ⊢
    exact openCall.1
  · have counted : ((Event.starts more).map Prod.snd).length = (Event.starts more).length :=
      List.length_map _
    exact Nat.le_trans (List.length_filter_le _ _) (Nat.le_of_eq counted)

theorem inFlight_start {events more : List Event} {time : Nat} {call : Call}
    (starts : Event.starts more = [(time, call)]) (ends : Event.ends more = [])
    (fresh : call.index ∉ (Event.ends events).map Prod.snd) :
    inFlight (events ++ more) = inFlight events ++ [call] := by
  unfold inFlight
  rw [Event.starts_append, Event.ends_append, starts, ends, List.append_nil, List.map_append,
    List.filter_append, List.map_singleton, List.filter_cons_of_pos (by simpa using fresh),
    List.filter_nil]

theorem inFlight_end {events more : List Event} {time index : Nat}
    (starts : Event.starts more = []) (ends : Event.ends more = [(time, index)]) :
    (inFlight (events ++ more)).map Call.index =
      ((inFlight events).map Call.index).filter fun other => decide (other ≠ index) := by
  have stricter : inFlight (events ++ more) =
      (inFlight events).filter fun call => decide (call.index ≠ index) := by
    unfold inFlight
    rw [Event.starts_append, Event.ends_append, starts, ends, List.append_nil, List.map_append,
      List.filter_filter]
    refine List.filter_congr ?_
    intro call _
    rw [List.map_singleton, ← Bool.decide_and]
    simp only [List.mem_append, List.mem_singleton, not_or, and_comm, ne_eq]
  rw [stricter, List.filter_map]
  rfl

theorem filter_ne_middle {front back : List Nat} {index : Nat}
    (distinct : (front ++ index :: back).Nodup) :
    (front ++ index :: back).filter (fun other => decide (other ≠ index)) = front ++ back := by
  have apart := List.perm_middle.nodup_iff.mp distinct
  obtain ⟨absent, _⟩ := List.nodup_cons.mp apart
  rw [List.filter_append, List.filter_cons_of_neg (by simp), ← List.filter_append]
  refine List.filter_eq_self.mpr ?_
  intro other member
  have different : other ≠ index := by
    intro same
    exact absent (same ▸ member)
  exact decide_eq_true different

variable {jobs calls : Nat} {working : List Nat} {events more : List Event}

theorem Crew.nil (jobs calls : Nat) : Crew jobs calls [] [] := by
  refine ⟨rfl, List.nodup_nil, ?_, ?_, ?_⟩
  · intro index member
    cases member
  · intro index member
    cases member
  · intro front frontOf
    rw [List.prefix_nil.mp frontOf]
    exact Nat.zero_le _

theorem Crew.length_eq (crew : Crew jobs calls working events) :
    (inFlight events).length = working.length := by
  rw [← crew.atWork, List.length_map]

/-- Ends never add to the calls in flight, so the bound is a matter of the starts alone. -/
theorem Crew.bounded_append (crew : Crew jobs calls working events)
    (room : working.length + (Event.starts more).length ≤ jobs) {front : List Event}
    (frontOf : front <+: events ++ more) : (inFlight front).length ≤ jobs := by
  rcases prefix_append_cases frontOf with short | ⟨part, partOf, rfl⟩
  · exact crew.bounded front short
  · have fewer : (Event.starts part).length ≤ (Event.starts more).length :=
      (partOf.filterMap Event.start?).length_le
    have bound := inFlight_length_le events part
    rw [crew.length_eq] at bound
    omega

theorem Crew.starts_call {time : Nat} {call : Call} (crew : Crew jobs calls working events)
    (room : working.length < jobs) (next : call.index = calls)
    (starts : Event.starts more = [(time, call)]) (ends : Event.ends more = []) :
    Crew jobs (calls + 1) (working ++ [calls]) (events ++ more) := by
  have fresh : call.index ∉ (Event.ends events).map Prod.snd := by
    intro member
    have less := crew.landed call.index member
    omega
  refine ⟨?_, ?_, ?_, ?_, ?_⟩
  · rw [inFlight_start starts ends fresh, List.map_append, crew.atWork, List.map_singleton, next]
  · refine List.nodup_append.mpr ⟨crew.distinct, List.nodup_cons.mpr ⟨nofun, List.nodup_nil⟩, ?_⟩
    intro index old other new
    have less := crew.numbered index old
    have same := List.mem_singleton.mp new
    omega
  · intro index member
    rcases List.mem_append.mp member with old | new
    · exact Nat.lt_succ_of_lt (crew.numbered index old)
    · rw [List.mem_singleton.mp new]
      exact Nat.lt_succ_self calls
  · intro index member
    rw [Event.ends_append, ends, List.append_nil] at member
    exact Nat.lt_succ_of_lt (crew.landed index member)
  · intro front frontOf
    have one : (Event.starts more).length = 1 := by rw [starts, List.length_singleton]
    exact crew.bounded_append (by omega) frontOf

theorem Crew.ends_call {time index : Nat} {front back : List Nat}
    (crew : Crew jobs calls (front ++ index :: back) events)
    (starts : Event.starts more = []) (ends : Event.ends more = [(time, index)]) :
    Crew jobs calls (front ++ back) (events ++ more) := by
  have fewer : (front ++ back).Sublist (front ++ index :: back) :=
    List.Sublist.append_left (List.sublist_cons_self index back) front
  refine ⟨?_, crew.distinct.sublist fewer, ?_, ?_, ?_⟩
  · rw [inFlight_end starts ends, crew.atWork, filter_ne_middle crew.distinct]
  · intro other member
    exact crew.numbered other (fewer.subset member)
  · intro other member
    rw [Event.ends_append, ends, List.map_append] at member
    rcases List.mem_append.mp member with old | new
    · exact crew.landed other old
    · rw [List.mem_singleton.mp new]
      exact crew.numbered index (List.mem_append_right _ List.mem_cons_self)
  · intro shorter frontOf
    have before := crew.bounded events (List.prefix_refl events)
    rw [crew.length_eq] at before
    have noneStarts : (Event.starts more).length = 0 := by rw [starts, List.length_nil]
    exact crew.bounded_append (by omega) frontOf

theorem Reached.crew {batch : Batch} {stays : List Stay}
    (reached : Reached configuration image runner first batch stays) :
    ∃ events, batch.world.trace = first.trace ++ events ∧
      Crew configuration.jobs batch.world.calls (batch.window.filterMap Slot.index?) events := by
  induction reached with
  | start => exact ⟨[], (List.append_nil _).symm, Crew.nil _ _⟩
  | leave before ih => exact ih
  | refuse before unsettled room unnamed ih =>
      rw [List.filterMap_append]
      change ∃ events, _ ∧ Crew _ _ (_ ++ []) events
      rw [List.append_nil]
      exact ih
  | @launch world done window file waiting stays target before unsettled room named ih =>
      obtain ⟨events, traced, crew⟩ := ih
      refine ⟨events ++ openingEvents configuration image runner file world, ?_, ?_⟩
      · rw [← List.append_assoc, ← traced]
        rfl
      · rw [List.filterMap_append]
        exact crew.starts_call (Nat.lt_of_le_of_lt (List.length_filterMap_le _ _) room) rfl
          starts_openingEvents ends_openingEvents
  | @land world done front step back waiting stays before due ih =>
      obtain ⟨events, traced, crew⟩ := ih
      rw [endCompile_eq]
      refine ⟨events ++ closingEvents configuration step world, ?_, ?_⟩
      · rw [← List.append_assoc, ← traced]
      · simp only [List.filterMap_append, List.filterMap_cons, Slot.index?] at crew ⊢
        exact crew.ends_call (starts_closingEvents configuration step world)
          (ends_closingEvents configuration step world)

/-! ### Whole batches -/

/-- The events of a batch follow a schedule: every file has one turn, in input order, with the call
that was planned for it. -/
structure Scheduled (configuration : Configuration) (image : Path) (runner : Runner)
    (calls origin : Nat) (turns : List Turn) (events : List Event) : Prop where
  planned : turns.map Turn.call? = plannedCalls configuration image calls configuration.inputs
  lasting : ∀ turn ∈ turns, turn.Lasts runner
  follows : Follows configuration.jobs origin turns
  starts : Event.starts events = turns.filterMap Turn.started?
  ends : (Event.ends events).Perm (turns.filterMap Turn.ended?)
  bounded : ∀ front, front <+: events → (inFlight front).length ≤ configuration.jobs

theorem Reached.scheduled {last : World} {done : List StepReport} {stays : List Stay}
    (reached : Reached configuration image runner first ⟨last, done, [], []⟩ stays) :
    ∃ events, last.trace = first.trace ++ events ∧
      last.time = latest first.time (turns runner stays) ∧
      Scheduled configuration image runner first.calls first.time (turns runner stays) events := by
  obtain ⟨events, traced, crew⟩ := reached.crew
  refine ⟨events, traced, ?_, ?_, ?_, reached.follows, ?_, ?_, crew.bounded⟩
  · have entered : stays.length = done.length + 0 := reached.entered
    have reaches : latest first.time ((turns runner stays).take done.length) ≤ last.time :=
      reached.latest_done_le
    rw [List.take_of_length_le (by rw [turns_length]; omega)] at reaches
    exact Nat.le_antisymm reached.time_le reaches
  · have calls := reached.calls
    rw [plannedCalls_nil, List.append_nil] at calls
    rw [turns, List.map_map, ← calls]
    rfl
  · intro turn member
    obtain ⟨stay, _, same⟩ := List.mem_map.mp member
    rw [← same]
    exact stay.turn_lasts runner
  · have starts := reached.starts_turns
    unfold World.starts at starts
    rw [traced, Event.starts_append] at starts
    exact List.append_cancel_left starts
  · have ends := reached.ends_turns
    unfold World.ends at ends
    rw [traced, Event.ends_append, List.filterMap_nil, List.append_nil] at ends
    exact (List.perm_append_left_iff _).mp ends

variable (runner) in
theorem compile_scheduled (imaged : configuration.compilerImage = some image)
    (several : 1 ≤ configuration.jobs) (world : World) :
    ∃ reports last record events turns,
      compile configuration runner world = (.ok reports, last) ∧
      reports.map (fun report => (report.operation, report.source)) =
        configuration.inputs.map (fun file => (Operation.compile file, some file)) ∧
      last.trace = world.trace ++ .logged record :: events ∧
      last.time = latest world.time turns ∧
      Scheduled configuration image runner world.calls world.time turns events := by
  obtain ⟨last, reports, waiting, stays, ran, reached, complete⟩ :=
    compile_reached runner imaged world
  have waited : waiting = [] := complete.resolve_right (by omega)
  subst waited
  obtain ⟨events, traced, time, scheduled⟩ := reached.scheduled
  have owned := reached.traced
  simp only [Batch.slots, List.append_nil] at owned
  have files := reached.files
  rw [List.append_nil] at files
  unfold batchWorld World.log at traced
  rw [List.append_assoc] at traced
  exact ⟨reports, last, _, events, turns runner stays, ran,
    by rw [owners_of_traced owned, files], traced, time, scheduled⟩

/-- A batch ends, its files start in input order, each at the latest end among the files that had to
leave before it, and no more calls than jobs are ever in flight. Forms are evaluated only when every
file has had its turn. -/
theorem compile_schedule (configuration : Configuration) (image : Path) (runner : Runner)
    (world : World) (imaged : configuration.compilerImage = some image)
    (several : 1 ≤ configuration.jobs) :
    (∃ reports last record events turns,
      compile configuration runner world = (.ok reports, last) ∧
      reports.map (fun report => (report.operation, report.source)) =
        configuration.inputs.map (fun file => (Operation.compile file, some file)) ∧
      last.trace = world.trace ++ .logged record :: events ∧
      last.time = latest world.time turns ∧
      Scheduled configuration image runner world.calls world.time turns events) ∧
    (configuration.bootstrapSource = none → configuration.forms ≠ [] →
      ∃ steps last records events after turns call,
        whole configuration runner world =
          (.ok { mode := .compile true, steps := steps }, last) ∧
        last.trace = world.trace ++ List.map .logged records ++ events ++ after ∧
        Scheduled configuration image runner world.calls world.time turns events ∧
        Event.starts after = [(latest world.time turns, call)] ∧
        call.command = evaluateCommand configuration image) := by
  refine ⟨compile_scheduled runner imaged several world, ?_⟩
  intro unsourced formed
  obtain ⟨reports, next, record, events, turns, ran, _, traced, time, scheduled⟩ :=
    compile_scheduled runner imaged several (modeWorld (.compile true) world)
  obtain ⟨last, evaluated, called⟩ := evaluate_ran imaged runner next
  obtain ⟨after, extended, starts, _⟩ := called.trace
  obtain ⟨modeRecord, noted⟩ := modeWorld_trace (.compile true) world
  refine ⟨_, last, [modeRecord, record], events, after, turns,
    evaluateCall configuration image next, whole_of_forms unsourced formed ran evaluated, ?_,
    scheduled, ?_, rfl⟩
  · rw [extended, traced, noted]
    simp only [List.map_cons, List.map_nil, List.append_assoc, List.cons_append, List.nil_append]
  · rw [starts, time]
    rfl

theorem twoFiles_schedule :
    ∃ steps last records events after turns call,
      whole twoFiles staggered { tree := {} } =
        (.ok { mode := .compile true, steps := steps }, last) ∧
      last.trace = [] ++ List.map .logged records ++ events ++ after ∧
      Scheduled twoFiles twoFilesImage staggered 0 0 turns events ∧
      Event.starts after = [(latest 0 turns, call)] ∧
      call.command = evaluateCommand twoFiles twoFilesImage :=
  (compile_schedule twoFiles twoFilesImage staggered { tree := {} } rfl (by decide)).2 rfl
    (by decide)

end CompilerDriver.Run
