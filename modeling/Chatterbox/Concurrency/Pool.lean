import Chatterbox.Concurrency.Program

/-!
Programs running side by side on one state. A schedule names, for every step,
the program that moves; a program that has ended makes no step. Nothing is
assumed about schedules, so a statement about every schedule covers every
interleaving of the requests, complete or cut off anywhere.
-/
namespace Concurrency
variable {Request : Type → Type} {Error α β σ ι : Type}

structure Pool (Request : Type → Type) (Error α σ ι : Type) where
  state : σ
  threads : ι → Program Request Error α

/-- One executed step: who issued which request, and the state it met. -/
structure Issued (Request : Type → Type) (σ ι : Type) where
  thread : ι
  Answer : Type
  request : Request Answer
  before : σ

namespace Pool

def issued (c : Pool Request Error α σ ι) (i : ι) : List (Issued Request σ ι) :=
  match c.threads i with
  | .request q _ => [⟨i,_,q,c.state⟩]
  | _ => []

theorem issued_request {c : Pool Request Error α σ ι} {i : ι} {q : Request β}
    {k : β → Program Request Error α} (next : c.threads i = .request q k) :
    c.issued i = [⟨i,_,q,c.state⟩] := by
  simp only [issued, next]

/-- A program has ended, or it has a request to issue. -/
theorem issued_cases (c : Pool Request Error α σ ι) (i : ι) :
    c.issued i = [] ∨ ∃ (β : Type) (q : Request β) (k : β → Program Request Error α),
      c.threads i = .request q k := by
  cases next : c.threads i with
  | request q k => exact Or.inr ⟨_,q,k,rfl⟩
  | done a => exact Or.inl (by simp only [issued, next])
  | fail e => exact Or.inl (by simp only [issued, next])

/-- A program issues at most one request at a time. -/
theorem issued_alone {c : Pool Request Error α σ ι} {i : ι} {e : Issued Request σ ι}
    (mem : e ∈ c.issued i) : c.issued i = [e] := by
  rcases c.issued_cases i with ended | ⟨β,q,k,next⟩
  · simp [ended] at mem
  · rw [issued_request next] at mem ⊢
    rw [List.mem_singleton.mp mem]

theorem issued_thread {c : Pool Request Error α σ ι} {i : ι} {e : Issued Request σ ι}
    (mem : e ∈ c.issued i) : e.thread = i ∧ e.before = c.state := by
  rcases c.issued_cases i with ended | ⟨β,q,k,next⟩
  · simp [ended] at mem
  · rw [issued_request next, List.mem_singleton] at mem
    subst mem
    exact ⟨rfl,rfl⟩

section Steps
variable [DecidableEq ι] (h : Handler Request σ)

def step (c : Pool Request Error α σ ι) (i : ι) : Pool Request Error α σ ι :=
  match c.threads i with
  | .request q k =>
      ⟨(h.answer q c.state).2, Function.update c.threads i (k (h.answer q c.state).1)⟩
  | _ => c

def run (c : Pool Request Error α σ ι) : List ι → Pool Request Error α σ ι
  | [] => c
  | i :: rest => (c.step h i).run rest

def trace (c : Pool Request Error α σ ι) : List ι → List (Issued Request σ ι)
  | [] => []
  | i :: rest => c.issued i ++ (c.step h i).trace rest

/-- Every step of the run meets the condition. -/
def Respects (guard : Issued Request σ ι → Prop) (c : Pool Request Error α σ ι)
    (schedule : List ι) : Prop :=
  ∀ e ∈ c.trace h schedule, guard e

instance (guard : Issued Request σ ι → Prop) [DecidablePred guard]
    (c : Pool Request Error α σ ι) (schedule : List ι) : Decidable (c.Respects h guard schedule) :=
  inferInstanceAs (Decidable (∀ e ∈ c.trace h schedule, guard e))

variable {h}

theorem run_append (c : Pool Request Error α σ ι) (first rest : List ι) :
    c.run h (first ++ rest) = (c.run h first).run h rest := by
  induction first generalizing c with
  | nil => rfl
  | cons i first ih => exact ih _

theorem trace_append (c : Pool Request Error α σ ι) (first rest : List ι) :
    c.trace h (first ++ rest) = c.trace h first ++ (c.run h first).trace h rest := by
  induction first generalizing c with
  | nil => rfl
  | cons i first ih => simp [trace, run, ih]

theorem step_request {c : Pool Request Error α σ ι} {i : ι} {q : Request β}
    {k : β → Program Request Error α} (next : c.threads i = .request q k) :
    c.step h i = ⟨(h.answer q c.state).2,
      Function.update c.threads i (k (h.answer q c.state).1)⟩ := by
  simp only [step, next]

theorem step_ended {c : Pool Request Error α σ ι} {i : ι}
    (ended : c.issued i = []) : c.step h i = c := by
  cases next : c.threads i with
  | request q k => simp [issued_request next] at ended
  | done a => simp only [step, next]
  | fail e => simp only [step, next]

theorem step_issued {c : Pool Request Error α σ ι} {i : ι} {e : Issued Request σ ι}
    (now : c.issued i = [e]) : (c.step h i).state = (h.answer e.request e.before).2 := by
  rcases c.issued_cases i with ended | ⟨β,q,k,next⟩
  · simp [ended] at now
  · rw [issued_request next, List.cons.injEq] at now
    rw [step_request next, ← now.1]

theorem mem_trace_split {c : Pool Request Error α σ ι} {schedule : List ι}
    {e : Issued Request σ ι} (mem : e ∈ c.trace h schedule) :
    ∃ first rest, schedule = first ++ e.thread :: rest ∧
      (c.run h first).issued e.thread = [e] := by
  induction schedule generalizing c with
  | nil => simp [trace] at mem
  | cons i schedule ih =>
    rcases List.mem_append.mp mem with now | later
    · refine ⟨[],schedule,?_⟩
      obtain rfl := (issued_thread now).1
      exact ⟨rfl,issued_alone now⟩
    · obtain ⟨first,rest,eq,is⟩ := ih later
      exact ⟨i :: first, rest, by rw [eq]; rfl, is⟩

theorem step_other {c : Pool Request Error α σ ι} {i j : ι} (other : i ≠ j) :
    (c.step h j).threads i = c.threads i := by
  rcases c.issued_cases j with ended | ⟨β,q,k,next⟩
  · rw [step_ended ended]
  · rw [step_request next]
    exact Function.update_of_ne other _ _

/-- A program that is not scheduled stays where it is. -/
theorem run_other {c : Pool Request Error α σ ι} {i : ι} {schedule : List ι}
    (idle : i ∉ schedule) : (c.run h schedule).threads i = c.threads i := by
  induction schedule generalizing c with
  | nil => rfl
  | cons j rest ih =>
    rw [List.mem_cons, not_or] at idle
    exact (ih idle.2).trans (step_other idle.1)

/-- A turn of a program: its request meets the state that the others have left, and it goes on
    with the answer. -/
theorem run_turn {c : Pool Request Error α σ ι} {i : ι} {q : Request β}
    {k : β → Program Request Error α} {past later : List ι}
    (next : (c.run h past).threads i = .request q k) (idle : i ∉ later) :
    (c.run h (past ++ i :: later)).threads i = k (h.answer q (c.run h past).state).1 := by
  rw [run_append, run, run_other idle, step_request next]
  exact Function.update_self ..

/-- A program that has ended stays so. -/
theorem run_done {c : Pool Request Error α σ ι} {i : ι} {a : α} (ended : c.threads i = .done a)
    (schedule : List ι) : (c.run h schedule).threads i = .done a := by
  induction schedule generalizing c with
  | nil => exact ended
  | cons j rest ih =>
    refine ih ?_
    by_cases same : i = j
    · subst same
      have none : c.issued i = [] := by simp only [issued, ended]
      rw [step_ended none]
      exact ended
    · exact (step_other same).trans ended

section At
variable {c : Pool Request Error α σ ι} {first : List ι} {i : ι} {e : Issued Request σ ι}
  (now : (c.run h first).issued i = [e])
include now

/-- A run cut at one of its steps. -/
theorem trace_at (later : List ι) : c.trace h (first ++ i :: later) =
    c.trace h first ++ [e] ++ ((c.run h first).step h i).trace h later := by
  rw [trace_append, trace, now, List.append_assoc]

theorem respects_at (guard : Issued Request σ ι → Prop) {later : List ι}
    (ok : c.Respects h guard (first ++ i :: later)) :
    c.Respects h guard first ∧ guard e ∧
      ((c.run h first).step h i).Respects h guard later := by
  unfold Respects at ok ⊢
  rw [trace_at now] at ok
  simp only [List.mem_append, List.mem_singleton] at ok
  exact ⟨fun f mem => ok f (Or.inl (Or.inl mem)), ok e (Or.inl (Or.inr rfl)),
    fun f mem => ok f (Or.inr mem)⟩

end At
end Steps
end Pool

/-- What a program relies on between its own requests (`rely`), what the
    schedule is assumed to respect when it issues one (`admits`), and what it
    commits to in return (`issues`). -/
structure Contract (Request : Type → Type) (σ : Type) where
  rely : σ → σ → Prop
  admits : {β : Type} → Request β → σ → Prop
  issues : {β : Type} → Request β → σ → Prop
  rely_refl : ∀ s, rely s s
  rely_trans : ∀ {s t u}, rely s t → rely t u → rely s u

namespace Program

/-- Whatever the answers, the program issues only requests of this kind. -/
def Only (kind : {β : Type} → Request β → Prop) : Program Request Error α → Prop
  | .done _ => True
  | .fail _ => True
  | .request q rest => kind q ∧ ∀ b, (rest b).Only kind

theorem Only.bind {kind : {β : Type} → Request β → Prop} {p : Program Request Error α}
    {f : α → Program Request Error β} (first : p.Only kind) (next : ∀ a, (f a).Only kind) :
    (p >>= f).Only kind := by
  induction p with
  | done a => exact next a
  | fail e => trivial
  | request q rest ih => exact ⟨first.1,fun b => ih b (first.2 b)⟩

theorem Only.weaken {kind kind' : {β : Type} → Request β → Prop} {p : Program Request Error α}
    (only : p.Only kind) (imp : ∀ {β : Type} (q : Request β), kind q → kind' q) :
    p.Only kind' := by
  induction p with
  | done a => trivial
  | fail e => trivial
  | request q rest ih => exact ⟨imp q only.1,fun b => ih b (only.2 b)⟩

theorem Only.map {kind : {β : Type} → Request β → Prop} {p : Program Request Error α}
    (only : p.Only kind) (f : α → β) : (f <$> p).Only kind :=
  only.bind fun _ => trivial

theorem Only.tryCatch {kind : {β : Type} → Request β → Prop} {p : Program Request Error α}
    {f : Error → Program Request Error α} (first : p.Only kind) (next : ∀ e, (f e).Only kind) :
    (tryCatchThe Error p f).Only kind := by
  induction p with
  | done a => trivial
  | fail e => exact next e
  | request q rest ih => exact ⟨first.1,fun b => ih b (first.2 b)⟩

theorem only_lift {kind : {β : Type} → Request β → Prop} (r : Except Error α) :
    (liftM r : Program Request Error α).Only kind := by
  cases r <;> trivial

theorem Only.run_invariant {kind : {β : Type} → Request β → Prop} {h : Handler Request σ}
    {inv : σ → Prop} {p : Program Request Error α} {s : σ} (only : p.Only kind)
    (step : ∀ {β : Type} (q : Request β) s, kind q → inv s → inv (h.answer q s).2) (hs : inv s) :
    inv (p.run h s).2 := by
  induction p generalizing s with
  | done a => exact hs
  | fail e => exact hs
  | request q rest ih => exact ih _ (only.2 _) (step q s only.1 hs)

/-- Handlers that answer the requests of a program alike run it alike. -/
theorem Only.run_same {h h' : Handler Request σ} {p : Program Request Error α}
    (only : p.Only fun q => ∀ s, h.answer q s = h'.answer q s) (s : σ) :
    p.run h s = p.run h' s := by
  induction p generalizing s with
  | done a => rfl
  | fail e => rfl
  | request q rest ih =>
    rw [run_request, run_request, only.1 s]
    exact ih _ (only.2 _) _

/-- A translated program issues only translated requests. -/
theorem only_translate {Other : Type → Type} {Failure : Type}
    {kind : {β : Type} → Other β → Prop} (f : {β : Type} → Request β → Other β)
    (g : Error → Failure) (all : ∀ {β : Type} (q : Request β), kind (f q))
    (p : Program Request Error α) : (p.translate f g).Only kind := by
  induction p with
  | done a => trivial
  | fail e => trivial
  | request q rest ih => exact ⟨all q,ih⟩

variable (h : Handler Request σ) (inv : σ → Prop) (k : Contract Request σ)

/-- The program keeps the invariant and its contract from here on, whatever the
    others do within `rely`, and ends with `post`. -/
def Meets (post : Except Error α → σ → Prop) : Program Request Error α → σ → Prop
  | .done a, s => ∀ t, k.rely s t → inv t → post (.ok a) t
  | .fail e, s => ∀ t, k.rely s t → inv t → post (.error e) t
  | .request q rest, s => ∀ t, k.rely s t → inv t → k.admits q t →
      k.issues q t ∧ inv (h.answer q t).2 ∧ (rest (h.answer q t).1).Meets post (h.answer q t).2

variable {h inv k}

theorem Meets.stable {post : Except Error α → σ → Prop} {p : Program Request Error α} {s t : σ}
    (ok : p.Meets h inv k post s) (moved : k.rely s t) : p.Meets h inv k post t := by
  cases p with
  | done a => exact fun u hu => ok u (k.rely_trans moved hu)
  | fail e => exact fun u hu => ok u (k.rely_trans moved hu)
  | request q rest => exact fun u hu => ok u (k.rely_trans moved hu)

theorem Meets.bind {first : Except Error α → σ → Prop} {post : Except Error β → σ → Prop}
    {p : Program Request Error α} {f : α → Program Request Error β} {s : σ}
    (ok : p.Meets h inv k first s) (hs : inv s)
    (next : ∀ a t, inv t → first (.ok a) t → (f a).Meets h inv k post t)
    (stop : ∀ e t, inv t → first (.error e) t → post (.error e) t) :
    (p >>= f).Meets h inv k post s := by
  induction p generalizing s with
  | done a => exact next a s hs (ok s (k.rely_refl s) hs)
  | fail e => exact fun t moved ht => stop e t ht (ok t moved ht)
  | request q rest ih =>
    intro t moved ht admitted
    obtain ⟨issued,kept,more⟩ := ok t moved ht admitted
    exact ⟨issued,kept,ih _ more kept⟩

theorem Meets.map {first : Except Error α → σ → Prop} {post : Except Error β → σ → Prop}
    {p : Program Request Error α} {f : α → β} {s : σ} (ok : p.Meets h inv k first s) (hs : inv s)
    (done : ∀ a t, inv t → first (.ok a) t → post (.ok (f a)) t)
    (stop : ∀ e t, inv t → first (.error e) t → post (.error e) t) :
    (f <$> p).Meets h inv k post s := by
  induction p generalizing s with
  | done a => exact fun t moved ht => done a t ht (ok t moved ht)
  | fail e => exact fun t moved ht => stop e t ht (ok t moved ht)
  | request q rest ih =>
    intro t moved ht admitted
    obtain ⟨issued,kept,more⟩ := ok t moved ht admitted
    exact ⟨issued,kept,ih _ more kept⟩

theorem Meets.tryCatch {first post : Except Error α → σ → Prop} {p : Program Request Error α}
    {f : Error → Program Request Error α} {s : σ} (ok : p.Meets h inv k first s) (hs : inv s)
    (done : ∀ a t, inv t → first (.ok a) t → post (.ok a) t)
    (handle : ∀ e t, inv t → first (.error e) t → (f e).Meets h inv k post t) :
    (tryCatchThe Error p f).Meets h inv k post s := by
  induction p generalizing s with
  | done a => exact fun t moved ht => done a t ht (ok t moved ht)
  | fail e => exact handle e s hs (ok s (k.rely_refl s) hs)
  | request q rest ih =>
    intro t moved ht admitted
    obtain ⟨issued,kept,more⟩ := ok t moved ht admitted
    exact ⟨issued,kept,ih _ more kept⟩

theorem Meets.weaken {first post : Except Error α → σ → Prop} {p : Program Request Error α}
    {s : σ} (ok : p.Meets h inv k first s) (imp : ∀ r t, inv t → first r t → post r t) :
    p.Meets h inv k post s := by
  induction p generalizing s with
  | done a => exact fun t moved ht => imp _ t ht (ok t moved ht)
  | fail e => exact fun t moved ht => imp _ t ht (ok t moved ht)
  | request q rest ih =>
    intro t moved ht admitted
    obtain ⟨issued,kept,more⟩ := ok t moved ht admitted
    exact ⟨issued,kept,ih _ more⟩

/-- Requests that stay within the program's own `rely` leave what it relies on. -/
theorem Only.meets {kind : {β : Type} → Request β → Prop} {p : Program Request Error α} {s : σ}
    (only : p.Only kind)
    (harmless : ∀ {β : Type} (q : Request β) t, kind q → inv t →
      k.issues q t ∧ inv (h.answer q t).2 ∧ k.rely t (h.answer q t).2) :
    p.Meets h inv k (fun _ t => k.rely s t) s := by
  suffices general : ∀ t, k.rely s t → p.Meets h inv k (fun _ t => k.rely s t) t from
    general s (k.rely_refl s)
  induction p with
  | done a => exact fun t reached u moved _ => k.rely_trans reached moved
  | fail e => exact fun t reached u moved _ => k.rely_trans reached moved
  | request q rest ih =>
    intro t reached u moved hu _
    obtain ⟨issued,kept,within⟩ := harmless q u only.1 hu
    exact ⟨issued,kept,ih _ (only.2 _) _ (k.rely_trans (k.rely_trans reached moved) within)⟩

end Program

namespace Pool
variable {h : Handler Request σ} {inv : σ → Prop} {k : ι → Contract Request σ}
  {post : ι → Except Error α → σ → Prop}

/-- All programs are inside their contracts. -/
def Sound (h : Handler Request σ) (inv : σ → Prop) (k : ι → Contract Request σ)
    (post : ι → Except Error α → σ → Prop) (c : Pool Request Error α σ ι) : Prop :=
  inv c.state ∧ ∀ i, (c.threads i).Meets h inv (k i) (post i) c.state

/-- A program that has ended satisfies its postcondition. -/
theorem Sound.post_done {c : Pool Request Error α σ ι} (ok : c.Sound h inv k post) {i : ι} {a : α}
    (ended : c.threads i = .done a) : post i (.ok a) c.state := by
  have mine := ok.2 i
  rw [ended] at mine
  exact mine c.state ((k i).rely_refl _) ok.1

theorem Sound.post_fail {c : Pool Request Error α σ ι} (ok : c.Sound h inv k post) {i : ι}
    {e : Error} (ended : c.threads i = .fail e) : post i (.error e) c.state := by
  have mine := ok.2 i
  rw [ended] at mine
  exact mine c.state ((k i).rely_refl _) ok.1

/-- No program leaves what another one relies on. -/
def Compatible (h : Handler Request σ) (inv : σ → Prop) (k : ι → Contract Request σ) : Prop :=
  ∀ i j, i ≠ j → ∀ {β : Type} (q : Request β) s, inv s → (k j).admits q s → (k j).issues q s →
    (k i).rely s (h.answer q s).2

variable [DecidableEq ι]

theorem sound_step (compatible : Compatible h inv k) {c : Pool Request Error α σ ι}
    (ok : c.Sound h inv k post) (i : ι)
    (admitted : ∀ e ∈ c.issued i, (k i).admits e.request e.before) :
    (c.step h i).Sound h inv k post ∧ ∀ e ∈ c.issued i, (k i).issues e.request e.before := by
  rcases c.issued_cases i with ended | ⟨β,q,rest,next⟩
  · rw [step_ended ended, ended]
    exact ⟨ok, by simp⟩
  · have mine := ok.2 i
    rw [next] at mine
    rw [issued_request next] at admitted ⊢
    have allowed := admitted _ (List.mem_singleton.mpr rfl)
    obtain ⟨issues,kept,more⟩ := mine c.state ((k i).rely_refl _) ok.1 allowed
    rw [step_request next]
    refine ⟨⟨kept,fun j => ?_⟩,fun e mem => ?_⟩
    · by_cases same : j = i
      · subst same
        simpa using more
      · simp only [Function.update_of_ne same]
        exact (ok.2 j).stable (compatible j i same q c.state ok.1 allowed issues)
    · rw [List.mem_singleton.mp mem]
      exact issues

/-- The rule for a pool: contracts that fit together survive every schedule, and
    every request of the run is one its program may issue. -/
theorem sound_run (compatible : Compatible h inv k) {c : Pool Request Error α σ ι}
    (ok : c.Sound h inv k post) (schedule : List ι)
    (admitted : c.Respects h (fun e => (k e.thread).admits e.request e.before) schedule) :
    (c.run h schedule).Sound h inv k post ∧
      c.Respects h (fun e => (k e.thread).issues e.request e.before) schedule := by
  induction schedule generalizing c with
  | nil => exact ⟨ok, by simp [Respects, trace]⟩
  | cons i rest ih =>
    have allowed : ∀ e ∈ c.issued i, (k i).admits e.request e.before := by
      intro e mem
      have own := admitted e (List.mem_append_left _ mem)
      simpa only [(issued_thread mem).1] using own
    obtain ⟨moved,now⟩ := sound_step compatible ok i allowed
    obtain ⟨final,later⟩ := ih moved (fun e mem => admitted e (List.mem_append_right _ mem))
    refine ⟨final,fun e mem => ?_⟩
    rcases List.mem_append.mp mem with head | tail
    · simpa only [(issued_thread head).1] using now e head
    · exact later e tail

/-- Induction over the steps of a run, with the steps so far at hand: what each
    allowed step carries over, the run carries over. -/
theorem history_run (holds : List (Issued Request σ ι) → σ → Prop)
    (allowed : Issued Request σ ι → Prop)
    (step : ∀ past e, holds past e.before → allowed e →
      holds (past ++ [e]) (h.answer e.request e.before).2)
    {c : Pool Request Error α σ ι} (past : List (Issued Request σ ι))
    (start : holds past c.state) (schedule : List ι) (ok : c.Respects h allowed schedule) :
    holds (past ++ c.trace h schedule) (c.run h schedule).state := by
  induction schedule generalizing c past with
  | nil => simpa [trace, run] using start
  | cons i rest ih =>
    have later : (c.step h i).Respects h allowed rest :=
      fun e mem => ok e (List.mem_append_right _ mem)
    rcases c.issued_cases i with ended | ⟨β,q,k,next⟩
    · rw [step_ended ended] at later
      simpa only [trace, run, ended, step_ended ended, List.nil_append] using ih past start later
    · have now := ok ⟨i,_,q,c.state⟩
        (List.mem_append_left _ (by rw [issued_request next]; exact List.mem_singleton.mpr rfl))
      have moved := step past ⟨i,_,q,c.state⟩ start now
      have final := ih (past ++ c.issued i) (by
        rw [issued_request next, step_request next]
        exact moved) later
      simpa only [trace, run, List.append_assoc] using final

/-- Induction over the steps for a property of states alone. -/
theorem invariant_run (holds : σ → Prop) (allowed : Issued Request σ ι → Prop)
    (step : ∀ e, holds e.before → allowed e → holds (h.answer e.request e.before).2)
    {c : Pool Request Error α σ ι} (start : holds c.state) (schedule : List ι)
    (ok : c.Respects h allowed schedule) : holds (c.run h schedule).state :=
  history_run (fun _ => holds) allowed (fun _ => step) [] start schedule ok

/-- Induction over the steps of one run, each with the steps before and after it. -/
theorem trace_run (holds : List (Issued Request σ ι) → σ → Prop)
    {c : Pool Request Error α σ ι} {schedule : List ι}
    (step : ∀ before e later, c.trace h schedule = before ++ e :: later →
      holds before e.before → holds (before ++ [e]) (h.answer e.request e.before).2)
    (start : holds [] c.state) : holds (c.trace h schedule) (c.run h schedule).state := by
  have final := history_run
    (fun past s => past <+: c.trace h schedule → holds past s) (fun _ => True)
    (fun past e known _ ahead => by
      obtain ⟨later,cut⟩ := ahead
      rw [List.append_assoc] at cut
      exact step past e later cut.symm (known ⟨_,cut⟩))
    [] (fun _ => start) schedule (fun _ _ => trivial)
  exact final (List.prefix_refl _)

/-- Programs that issue only requests of their kinds do so in every run. -/
theorem only_run {kind : ι → {β : Type} → Request β → Prop} {c : Pool Request Error α σ ι}
    (only : ∀ i, (c.threads i).Only (kind i)) (schedule : List ι) :
    c.Respects h (fun e => kind e.thread e.request) schedule := by
  let free (i : ι) : Contract Request σ :=
    { rely := fun _ _ => True, admits := fun _ _ => True, issues := fun q _ => kind i q,
      rely_refl := fun _ => trivial, rely_trans := fun _ _ => trivial }
  have sound : c.Sound h (fun _ => True) free (fun _ _ _ => True) :=
    ⟨trivial,fun i => (only i).meets fun q _ is _ => ⟨is,trivial,trivial⟩⟩
  exact (sound_run (fun _ _ _ _ _ _ _ _ _ => trivial) sound schedule fun _ _ => trivial).2

end Pool
end Concurrency
