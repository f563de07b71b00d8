import Mathlib.Logic.Relation
import RunOnce.Proofs.Outcome

/-!
# A pool of workers

Tasks are handed to a pool in order. A free worker takes the first task that
waits, and workers finish in any order. A reader collects the results in the order
of the tasks. It stops at the first failure it reads; from then on, tasks that wait
may be called off, and the reader leaves when no task is waited for or worked on.

The work on a task gives the same result whenever it is done. So a slot, once
filled, holds the result of its task alone, and the reader leaves with the outcome
of working on the tasks in turn. There is always a next step until it has left, and
only so many steps: no order in which workers finish makes a difference.
-/

namespace RunOnce.Scheduling

variable {α β ε : Type}

/-! ## Pools -/

/-- How far a task has come. -/
inductive Stage (ε β : Type)
  | waiting
  | running
  | finished (result : Except ε β)
  | cancelled

/-- A task in the pool. -/
structure Job (α ε β : Type) where
  task : α
  stage : Stage ε β

/-- How far the results have been read. -/
inductive Reader (ε β : Type)
  /-- The results read so far are values. -/
  | reading (values : List β)
  /-- The outcome is known, and the pool is not idle yet. -/
  | leaving (outcome : Except ε (List β))
  | left (outcome : Except ε (List β))

/-- A pool, with the jobs in the order of the tasks. -/
structure Pool (α ε β : Type) where
  jobs : List (Job α ε β)
  reader : Reader ε β

/-- A pool that was just given its tasks. -/
def Pool.start (tasks : List α) : Pool α ε β :=
  ⟨tasks.map fun task => ⟨task, .waiting⟩, .reading []⟩

namespace Job

/-- Whether no worker has taken the task, and it is not called off. -/
def isWaiting (job : Job α ε β) : Bool :=
  match job.stage with
  | .waiting => true
  | .running | .finished _ | .cancelled => false

/-- Whether a worker is busy with the task. -/
def isRunning (job : Job α ε β) : Bool :=
  match job.stage with
  | .running => true
  | .waiting | .finished _ | .cancelled => false

theorem exists_of_isWaiting {job : Job α ε β} (isWaiting : job.isWaiting = true) :
    ∃ task, job = ⟨task, .waiting⟩ := by
  obtain ⟨task, _ | _ | _ | _⟩ := job <;> simp_all [Job.isWaiting]

theorem exists_of_isRunning {job : Job α ε β} (isRunning : job.isRunning = true) :
    ∃ task, job = ⟨task, .running⟩ := by
  obtain ⟨task, _ | _ | _ | _⟩ := job <;> simp_all [Job.isRunning]

end Job

/-- What can happen in a pool with a number of workers. -/
inductive Step (work : α → Except ε β) (workers : Nat) : Pool α ε β → Pool α ε β → Prop
  /-- A free worker takes the first task that waits. -/
  | take {before after : List (Job α ε β)} {task : α} {reader : Reader ε β}
      (first : ∀ job ∈ before, job.isWaiting = false)
      (free : (before ++ after).countP Job.isRunning < workers) :
      Step work workers ⟨before ++ ⟨task, .waiting⟩ :: after, reader⟩
        ⟨before ++ ⟨task, .running⟩ :: after, reader⟩
  /-- Any busy worker finishes its task. -/
  | finish {before after : List (Job α ε β)} {task : α} {reader : Reader ε β} :
      Step work workers ⟨before ++ ⟨task, .running⟩ :: after, reader⟩
        ⟨before ++ ⟨task, .finished (work task)⟩ :: after, reader⟩
  /-- The reader reads the next value. -/
  | read {jobs : List (Job α ε β)} {task : α} {values : List β} {value : β}
      (next : jobs[values.length]? = some ⟨task, .finished (.ok value)⟩) :
      Step work workers ⟨jobs, .reading values⟩ ⟨jobs, .reading (values ++ [value])⟩
  /-- The next result is a failure, and becomes the outcome. -/
  | fail {jobs : List (Job α ε β)} {task : α} {values : List β} {failure : ε}
      (next : jobs[values.length]? = some ⟨task, .finished (.error failure)⟩) :
      Step work workers ⟨jobs, .reading values⟩ ⟨jobs, .leaving (.error failure)⟩
  /-- All values have been read. -/
  | complete {jobs : List (Job α ε β)} {values : List β}
      (all : values.length = jobs.length) :
      Step work workers ⟨jobs, .reading values⟩ ⟨jobs, .leaving (.ok values)⟩
  /-- A task that waits is called off. -/
  | cancel {before after : List (Job α ε β)} {task : α} {outcome : Except ε (List β)} :
      Step work workers ⟨before ++ ⟨task, .waiting⟩ :: after, .leaving outcome⟩
        ⟨before ++ ⟨task, .cancelled⟩ :: after, .leaving outcome⟩
  /-- The pool is idle, and the reader leaves with the outcome. -/
  | leave {jobs : List (Job α ε β)} {outcome : Except ε (List β)}
      (idle : ∀ job ∈ jobs, job.isWaiting = false ∧ job.isRunning = false) :
      Step work workers ⟨jobs, .leaving outcome⟩ ⟨jobs, .left outcome⟩

/-! ## What is true of every pool -/

/-- Whether a reader has got as far as working on the tasks in turn would get. -/
def Reader.Sound (work : α → Except ε β) (tasks : List α) : Reader ε β → Prop
  | reading values => (tasks.take values.length).mapM work = .ok values
  | leaving outcome => tasks.mapM work = outcome
  | left outcome => tasks.mapM work = outcome

/-- What is true of a pool at any time after it was given its tasks. -/
structure Sound (work : α → Except ε β) (tasks : List α) (pool : Pool α ε β) : Prop where
  /-- The jobs are those of the tasks. -/
  tasks_eq : pool.jobs.map Job.task = tasks
  /-- A slot that is filled holds the result of its task. -/
  result_eq : ∀ job ∈ pool.jobs, ∀ result, job.stage = .finished result →
    result = work job.task
  /-- Nothing is called off while results are read. -/
  kept : ∀ values, pool.reader = .reading values → ∀ job ∈ pool.jobs, job.stage ≠ .cancelled
  reader_sound : pool.reader.Sound work tasks

section

variable {work : α → Except ε β} {workers : Nat} {tasks : List α} {pool next : Pool α ε β}

theorem sound_start (work : α → Except ε β) (tasks : List α) :
    Sound work tasks (Pool.start tasks) where
  tasks_eq := by simp [Pool.start, Function.comp_def]
  result_eq := by
    intro job listed result finished
    obtain ⟨task, _, rfl⟩ := List.mem_map.mp listed
    cases finished
  kept := by
    intro _ _ job listed cancelled
    obtain ⟨task, _, rfl⟩ := List.mem_map.mp listed
    cases cancelled
  reader_sound := rfl

/-- A job may go over to another stage: to the result of its task, or to being called
off if nothing is read any more. -/
theorem Sound.change {before after : List (Job α ε β)} {task : α} {old new : Stage ε β}
    {reader : Reader ε β} (sound : Sound work tasks ⟨before ++ ⟨task, old⟩ :: after, reader⟩)
    (result_eq : ∀ result, new = .finished result → result = work task)
    (kept : ∀ values, reader = .reading values → new ≠ .cancelled) :
    Sound work tasks ⟨before ++ ⟨task, new⟩ :: after, reader⟩ where
  tasks_eq := by simpa using sound.tasks_eq
  result_eq := by
    intro job listed result finished
    rcases List.mem_append.mp listed with early | later
    · exact sound.result_eq job (List.mem_append_left _ early) result finished
    · rcases List.mem_cons.mp later with rfl | later
      · exact result_eq result finished
      · exact sound.result_eq job (List.mem_append_right _ (List.mem_cons_of_mem _ later))
          result finished
  kept := by
    intro values reads job listed
    rcases List.mem_append.mp listed with early | later
    · exact sound.kept values reads job (List.mem_append_left _ early)
    · rcases List.mem_cons.mp later with rfl | later
      · exact kept values reads
      · exact sound.kept values reads job (List.mem_append_right _ (List.mem_cons_of_mem _ later))
  reader_sound := sound.reader_sound

/-- The result that is read next is that of the next task. -/
theorem Sound.next_task {jobs : List (Job α ε β)} {values : List β} {task : α}
    {result : Except ε β} (sound : Sound work tasks ⟨jobs, .reading values⟩)
    (next : jobs[values.length]? = some ⟨task, .finished result⟩) :
    tasks[values.length]? = some task ∧ work task = result := by
  constructor
  · rw [← sound.tasks_eq, List.getElem?_map, next]
    rfl
  · exact (sound.result_eq _ (List.mem_of_getElem? next) result rfl).symm

/-- Each step keeps a pool sound. -/
theorem Sound.step (sound : Sound work tasks pool) (step : Step work workers pool next) :
    Sound work tasks next := by
  cases step with
  | take first free => exact sound.change nofun nofun
  | finish =>
    refine sound.change ?_ nofun
    rintro result ⟨⟩
    rfl
  | cancel => exact sound.change nofun nofun
  | @read jobs task values value next =>
    refine ⟨sound.tasks_eq, sound.result_eq, fun _ _ => sound.kept values rfl, ?_⟩
    obtain ⟨isNext, worked⟩ := sound.next_task next
    have soFar : (tasks.take values.length).mapM work = .ok values := sound.reader_sound
    show (tasks.take (values ++ [value]).length).mapM work = .ok (values ++ [value])
    rw [List.length_append, List.length_singleton, List.take_add_one, isNext,
      Option.toList_some, List.mapM_append, soFar, List.mapM_cons, worked]
    rfl
  | @fail jobs task values failure next =>
    refine ⟨sound.tasks_eq, sound.result_eq, nofun, ?_⟩
    obtain ⟨isNext, worked⟩ := sound.next_task next
    obtain ⟨inside, isTask⟩ := List.getElem?_eq_some_iff.mp isNext
    have soFar : (tasks.take values.length).mapM work = .ok values := sound.reader_sound
    show tasks.mapM work = .error failure
    rw [← List.take_append_drop values.length tasks, List.mapM_append, soFar,
      List.drop_eq_getElem_cons inside, isTask, List.mapM_cons, worked]
    rfl
  | @complete jobs values all =>
    refine ⟨sound.tasks_eq, sound.result_eq, nofun, ?_⟩
    have soFar : (tasks.take values.length).mapM work = .ok values := sound.reader_sound
    have whole : values.length = tasks.length := by
      rw [all, ← sound.tasks_eq, List.length_map]
    rwa [whole, List.take_length] at soFar
  | leave idle => exact ⟨sound.tasks_eq, sound.result_eq, nofun, sound.reader_sound⟩

/-- A pool is sound after any steps. -/
theorem Sound.run (sound : Sound work tasks pool)
    (run : Relation.ReflTransGen (Step work workers) pool next) : Sound work tasks next := by
  induction run with
  | refl => exact sound
  | tail _ step ih => exact ih.step step

/-! ## There is a next step -/

theorem exists_step_of_running {job : Job α ε β} (listed : job ∈ pool.jobs)
    (isRunning : job.isRunning = true) : ∃ next, Step work workers pool next := by
  obtain ⟨task, rfl⟩ := Job.exists_of_isRunning isRunning
  obtain ⟨jobs, reader⟩ := pool
  obtain ⟨before, after, rfl⟩ := List.append_of_mem listed
  exact ⟨_, .finish⟩

/-- In a pool where no worker is busy, the first task that waits is taken. -/
theorem exists_step_of_waiting (positive : 0 < workers)
    (noneRunning : ∀ job ∈ pool.jobs, job.isRunning = false) {job : Job α ε β}
    (listed : job ∈ pool.jobs) (isWaiting : job.isWaiting = true) :
    ∃ next, Step work workers pool next := by
  obtain ⟨jobs, reader⟩ := pool
  obtain ⟨first, found⟩ :=
    Option.isSome_iff_exists.mp (List.find?_isSome.mpr ⟨job, listed, isWaiting⟩)
  obtain ⟨waits, before, after, rfl, ahead⟩ := List.find?_eq_some_iff_append.mp found
  obtain ⟨task, rfl⟩ := Job.exists_of_isWaiting waits
  refine ⟨_, .take (by simpa using ahead) ?_⟩
  have idle : (before ++ after).countP Job.isRunning = 0 := by
    apply List.countP_eq_zero.mpr
    intro other among
    have kept : other ∈ before ++ ⟨task, .waiting⟩ :: after := by
      rw [List.mem_append] at among ⊢
      exact among.imp_right (List.mem_cons_of_mem _)
    simp [noneRunning other kept]
  rw [idle]
  exact positive

/-- In an idle pool it is the reader's turn, as long as it has not left. -/
theorem Sound.exists_step_of_idle (sound : Sound work tasks pool)
    (idle : ∀ job ∈ pool.jobs, job.isWaiting = false ∧ job.isRunning = false) :
    (∃ next, Step work workers pool next) ∨ ∃ outcome, pool.reader = .left outcome := by
  obtain ⟨jobs, reader⟩ := pool
  cases reader with
  | reading values =>
    left
    have bounded : values.length ≤ jobs.length := by
      have sameTasks : jobs.map Job.task = tasks := sound.tasks_eq
      have lengths := (exceptMapM_eq_ok_iff.mp sound.reader_sound).length_eq
      rw [← sameTasks, List.length_take, List.length_map] at lengths
      omega
    cases next : jobs[values.length]? with
    | none =>
      have all := Nat.le_antisymm bounded (List.getElem?_eq_none_iff.mp next)
      exact ⟨_, .complete all⟩
    | some job =>
      have listed := List.mem_of_getElem? next
      obtain ⟨notWaiting, notRunning⟩ := idle job listed
      obtain ⟨task, _ | _ | (_ | _) | _⟩ := job
      · cases notWaiting
      · cases notRunning
      · exact ⟨_, .fail next⟩
      · exact ⟨_, .read next⟩
      · exact absurd rfl (sound.kept values rfl _ listed)
  | leaving outcome => exact .inl ⟨_, .leave idle⟩
  | left outcome => exact .inr ⟨outcome, rfl⟩

/-- As long as the reader has not left, something can happen. -/
theorem Sound.exists_step (sound : Sound work tasks pool) (positive : 0 < workers) :
    (∃ next, Step work workers pool next) ∨ ∃ outcome, pool.reader = .left outcome := by
  by_cases someRunning : ∃ job ∈ pool.jobs, job.isRunning = true
  · obtain ⟨job, listed, isRunning⟩ := someRunning
    exact .inl (exists_step_of_running listed isRunning)
  have noneRunning : ∀ job ∈ pool.jobs, job.isRunning = false := by
    intro job listed
    exact Bool.eq_false_iff.mpr fun isRunning => someRunning ⟨job, listed, isRunning⟩
  by_cases someWaiting : ∃ job ∈ pool.jobs, job.isWaiting = true
  · obtain ⟨job, listed, isWaiting⟩ := someWaiting
    exact .inl (exists_step_of_waiting positive noneRunning listed isWaiting)
  apply sound.exists_step_of_idle
  intro job listed
  refine ⟨?_, noneRunning job listed⟩
  exact Bool.eq_false_iff.mpr fun isWaiting => someWaiting ⟨job, listed, isWaiting⟩

/-! ## There are only so many steps -/

/-- How many steps the reader of some jobs has ahead of it at most. -/
def Reader.remaining (jobs : Nat) : Reader ε β → Nat
  | reading values => (jobs - values.length) + 2
  | leaving _ => 1
  | left _ => 0

/-- How many steps a pool has ahead of it at most: a task that waits may be taken and
finished, one that is worked on may be finished. -/
def Pool.remaining (pool : Pool α ε β) : Nat :=
  2 * pool.jobs.countP Job.isWaiting + pool.jobs.countP Job.isRunning +
    pool.reader.remaining pool.jobs.length

theorem Step.remaining_lt (step : Step work workers pool next) :
    next.remaining < pool.remaining := by
  cases step with
  | take first free =>
    simp [Pool.remaining, List.countP_cons, Job.isWaiting, Job.isRunning]
    omega
  | finish => simp [Pool.remaining, List.countP_cons, Job.isWaiting, Job.isRunning]
  | cancel => simp [Pool.remaining, List.countP_cons, Job.isWaiting, Job.isRunning]
  | @read jobs task values value next =>
    obtain ⟨inside, _⟩ := List.getElem?_eq_some_iff.mp next
    simp only [Pool.remaining, Reader.remaining, List.length_append, List.length_singleton]
    omega
  | fail next => simp [Pool.remaining, Reader.remaining]
  | complete all => simp [Pool.remaining, Reader.remaining]
  | leave idle => simp [Pool.remaining, Reader.remaining]

/-! ## Every run ends with the same outcome -/

/-- Whether a pool comes to its end with an outcome, whatever happens in it: the
reader has left with the outcome, or something can happen and all that can happen
leads there. -/
inductive EndsWith (work : α → Except ε β) (workers : Nat) (outcome : Except ε (List β)) :
    Pool α ε β → Prop
  | left {jobs : List (Job α ε β)} : EndsWith work workers outcome ⟨jobs, .left outcome⟩
  | later {pool : Pool α ε β} (possible : ∃ next, Step work workers pool next)
      (always : ∀ next, Step work workers pool next → EndsWith work workers outcome next) :
      EndsWith work workers outcome pool

/-- Every pool ends, with the outcome of working on the tasks in turn. -/
theorem Sound.endsWith (sound : Sound work tasks pool) (positive : 0 < workers) :
    EndsWith work workers (tasks.mapM work) pool := by
  -- By induction on the steps that are left: each step takes one of them.
  induction bound : pool.remaining using Nat.strongRecOn generalizing pool with
  | _ count ih =>
    subst bound
    rcases sound.exists_step positive with possible | ⟨outcome, hasLeft⟩
    · refine .later possible ?_
      intro next step
      exact ih _ step.remaining_lt (sound.step step) rfl
    · obtain ⟨jobs, reader⟩ := pool
      cases hasLeft
      have same : tasks.mapM work = outcome := sound.reader_sound
      rw [same]
      exact .left

/-- A pool that comes to its end has a run there. -/
theorem EndsWith.exists_run {outcome : Except ε (List β)}
    (ends : EndsWith work workers outcome pool) :
    ∃ jobs, Relation.ReflTransGen (Step work workers) pool ⟨jobs, .left outcome⟩ := by
  induction ends with
  | left => exact ⟨_, .refl⟩
  | later possible _ ih =>
    obtain ⟨next, step⟩ := possible
    obtain ⟨jobs, run⟩ := ih next step
    exact ⟨jobs, run.head step⟩

/-- A run of a pool that was given tasks leaves with an outcome exactly if this is the
outcome of working on the tasks in turn. -/
theorem exists_run_iff (positive : 0 < workers) {outcome : Except ε (List β)} :
    (∃ jobs, Relation.ReflTransGen (Step work workers) (Pool.start tasks)
      ⟨jobs, .left outcome⟩) ↔ outcome = tasks.mapM work := by
  constructor
  · rintro ⟨jobs, run⟩
    exact ((sound_start work tasks).run run).reader_sound.symm
  · rintro rfl
    exact ((sound_start work tasks).endsWith positive).exists_run

end

end RunOnce.Scheduling
