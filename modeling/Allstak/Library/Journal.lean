import Mathlib.Data.List.Basic

/-!
# Journals of jobs

Jobs are opened one after the other, and each is told in chapters, with those of
other jobs in between.  A journal keeps what was put out, line by line: by a job
in one of its chapters, or by others.
-/

namespace Library

/-- What a line is about: a chapter of the job with the index, or what others
put out. -/
inductive Journal.Line (Output : Type*) where
  | job (index number : Nat)
  | others (output : List Output)

/-- The chapter a line tells of the job with the index. -/
def Journal.Line.number? {Output : Type*} (index : Nat) :
    Journal.Line Output → Option Nat
  | job other number => if other = index then some number else none
  | others _ => none

/-- The chapters of the job with the index. -/
def Journal.chaptersOf {Job Chapter : Type*} (jobs : List (Job × List Chapter))
    (index : Nat) : List Chapter :=
  jobs[index]?.elim [] Prod.snd

/-- Every chapter of every job has one line, in order. -/
structure Journal (Job Chapter Output : Type*) where
  jobs : List (Job × List Chapter) := []
  lines : List (Journal.Line Output) := []
  told : ∀ index, lines.filterMap (Journal.Line.number? index) =
    List.range (Journal.chaptersOf jobs index).length

namespace Journal

variable {Job Chapter Output : Type*}

def empty : Journal Job Chapter Output where
  jobs := []
  lines := []
  told _ := rfl

/-- The jobs in the order in which they were opened. -/
def opened (journal : Journal Job Chapter Output) : List Job :=
  journal.jobs.map Prod.fst

/-- The chapters of a job so far. -/
def chapters (journal : Journal Job Chapter Output) (index : Nat) :
    List Chapter :=
  chaptersOf journal.jobs index

/-- The chapters of a job for which there are lines, by number. -/
def numbers (journal : Journal Job Chapter Output) (index : Nat) : List Nat :=
  journal.lines.filterMap (Line.number? index)

/-- A job with one of its chapters. -/
def chapterAt (jobs : List (Job × List Chapter)) (index number : Nat) :
    Option (Job × Chapter) :=
  jobs[index]?.bind fun entry =>
    entry.2[number]?.map fun chapter => (entry.1, chapter)

/-- What is written on a line, when a job puts out what `sends` says. -/
def Line.output (sends : Job → Chapter → List Output)
    (jobs : List (Job × List Chapter)) : Line Output → List Output
  | job index number =>
      (chapterAt jobs index number).elim [] fun entry => sends entry.1 entry.2
  | others output => output

/-- Everything put out so far. -/
def output (sends : Job → Chapter → List Output)
    (journal : Journal Job Chapter Output) : List Output :=
  journal.lines.flatMap (Line.output sends journal.jobs)

/-- A line tells a chapter that is there. -/
theorem lt_of_mem_lines {journal : Journal Job Chapter Output}
    {index number : Nat} (member : Line.job index number ∈ journal.lines) :
    number < (journal.chapters index).length := by
  apply List.mem_range.mp
  rw [chapters, ← journal.told index]
  exact List.mem_filterMap.mpr ⟨.job index number, member, if_pos rfl⟩

/-- Lines say the same when the chapters they are about are the same. -/
theorem flatMap_output_congr {sends : Job → Chapter → List Output}
    {lines : List (Line Output)} {jobs others : List (Job × List Chapter)}
    (same : ∀ index number, Line.job index number ∈ lines →
      chapterAt others index number = chapterAt jobs index number) :
    lines.flatMap (Line.output sends others) =
      lines.flatMap (Line.output sends jobs) := by
  apply List.flatMap_congr
  intro line member
  cases line with
  | job index number =>
      rw [Line.output, same index number member]
      rfl
  | others output => rfl

private theorem getElem?_concat_blank (jobs : List (Job × List Chapter))
    (job : Job) (index : Nat) :
    (jobs ++ [(job, [])])[index]? = jobs[index]? ∨
      jobs[index]? = none ∧ (jobs ++ [(job, [])])[index]? = some (job, []) := by
  rcases Nat.lt_trichotomy index jobs.length with before | last | after
  · exact .inl (List.getElem?_append_left before)
  · subst last
    exact .inr ⟨List.getElem?_eq_none (Nat.le_refl _),
      List.getElem?_concat_length⟩
  · left
    rw [List.getElem?_eq_none (Nat.le_of_lt after)]
    apply List.getElem?_eq_none
    rw [List.length_append]
    exact after

private theorem chaptersOf_concat (jobs : List (Job × List Chapter)) (job : Job)
    (index : Nat) :
    chaptersOf (jobs ++ [(job, [])]) index = chaptersOf jobs index := by
  unfold chaptersOf
  rcases getElem?_concat_blank jobs job index with same | ⟨before, after⟩
  · rw [same]
  · rw [before, after]
    rfl

private theorem chapterAt_concat (jobs : List (Job × List Chapter)) (job : Job)
    (index number : Nat) :
    chapterAt (jobs ++ [(job, [])]) index number =
      chapterAt jobs index number := by
  unfold chapterAt
  rcases getElem?_concat_blank jobs job index with same | ⟨before, after⟩
  · rw [same]
  · rw [before, after]
    rfl

def openJob (job : Job) (journal : Journal Job Chapter Output) :
    Journal Job Chapter Output where
  jobs := journal.jobs ++ [(job, [])]
  lines := journal.lines
  told index := by
    rw [chaptersOf_concat]
    exact journal.told index

@[simp] theorem opened_openJob (job : Job)
    (journal : Journal Job Chapter Output) :
    (journal.openJob job).opened = journal.opened ++ [job] := by
  simp [opened, openJob]

@[simp] theorem chapters_openJob (job : Job)
    (journal : Journal Job Chapter Output) (index : Nat) :
    (journal.openJob job).chapters index = journal.chapters index :=
  chaptersOf_concat journal.jobs job index

@[simp] theorem output_openJob (sends : Job → Chapter → List Output)
    (job : Job) (journal : Journal Job Chapter Output) :
    (journal.openJob job).output sends = journal.output sends :=
  flatMap_output_congr fun index number _ =>
    chapterAt_concat journal.jobs job index number

private theorem chaptersOf_eq {jobs : List (Job × List Chapter)} {index : Nat}
    {job : Job} {before : List Chapter}
    (found : jobs[index]? = some (job, before)) :
    chaptersOf jobs index = before := by
  rw [chaptersOf, found]
  rfl

private theorem chaptersOf_set {jobs : List (Job × List Chapter)} {index : Nat}
    {job : Job} {before after : List Chapter}
    (found : jobs[index]? = some (job, before)) (place : Nat) :
    chaptersOf (jobs.set index (job, after)) place =
      if index = place then after else chaptersOf jobs place := by
  have inside := (List.getElem?_eq_some_iff.mp found).1
  unfold chaptersOf
  by_cases same : index = place
  · subst same
    rw [List.getElem?_set_self inside, if_pos rfl]
    rfl
  · rw [List.getElem?_set_ne same, if_neg same]

/-- The chapters a job had before are still there. -/
private theorem chapterAt_set {jobs : List (Job × List Chapter)} {index : Nat}
    {job : Job} {before : List Chapter}
    (found : jobs[index]? = some (job, before)) (chapter : Chapter)
    {place number : Nat} (old : number < (chaptersOf jobs place).length) :
    chapterAt (jobs.set index (job, before ++ [chapter])) place number =
      chapterAt jobs place number := by
  have inside := (List.getElem?_eq_some_iff.mp found).1
  unfold chapterAt
  by_cases same : index = place
  · subst same
    have told : number < before.length := chaptersOf_eq found ▸ old
    rw [List.getElem?_set_self inside, found]
    dsimp only [Option.bind_some]
    rw [List.getElem?_append_left told]
  · rw [List.getElem?_set_ne same]

/-- Tell the next chapter of a job. -/
def tell (journal : Journal Job Chapter Output) {index : Nat} {job : Job}
    {before : List Chapter} (found : journal.jobs[index]? = some (job, before))
    (chapter : Chapter) : Journal Job Chapter Output where
  jobs := journal.jobs.set index (job, before ++ [chapter])
  lines := journal.lines ++ [.job index before.length]
  told place := by
    have earlier := journal.told place
    rw [List.filterMap_append, earlier, chaptersOf_set found]
    by_cases same : index = place
    · subst same
      simp [chaptersOf_eq found, Line.number?, List.range_succ]
    · simp [Line.number?, same]

@[simp] theorem opened_tell (journal : Journal Job Chapter Output)
    {index : Nat} {job : Job} {before : List Chapter}
    (found : journal.jobs[index]? = some (job, before)) (chapter : Chapter) :
    (journal.tell found chapter).opened = journal.opened := by
  have inside := (List.getElem?_eq_some_iff.mp found).1
  apply List.ext_getElem?
  intro place
  simp only [opened, tell, List.getElem?_map]
  by_cases same : index = place
  · subst same
    rw [List.getElem?_set_self inside, found]
    rfl
  · rw [List.getElem?_set_ne same]

/-- What held of the chapters of every job still does, when it goes on with the
chapter that is told. -/
theorem forall_chapters_tell {Holds : List Chapter → Prop}
    {journal : Journal Job Chapter Output} {index : Nat} {job : Job}
    {before : List Chapter} {chapter : Chapter}
    (found : journal.jobs[index]? = some (job, before))
    (all : ∀ place, Holds (journal.chapters place))
    (goes : Holds before → Holds (before ++ [chapter])) (place : Nat) :
    Holds ((journal.tell found chapter).chapters place) := by
  have told : journal.chapters index = before := chaptersOf_eq found
  have after : (journal.tell found chapter).chapters place =
      if index = place then before ++ [chapter] else journal.chapters place :=
    chaptersOf_set found place
  rw [after]
  split
  · exact goes (told ▸ all index)
  · exact all place

/-- A job puts out its share with every chapter. -/
@[simp] theorem output_tell (sends : Job → Chapter → List Output)
    (journal : Journal Job Chapter Output) {index : Nat} {job : Job}
    {before : List Chapter} (found : journal.jobs[index]? = some (job, before))
    (chapter : Chapter) :
    (journal.tell found chapter).output sends =
      journal.output sends ++ sends job chapter := by
  have inside := (List.getElem?_eq_some_iff.mp found).1
  simp only [output, tell, List.flatMap_append, List.flatMap_singleton]
  congr 1
  · apply flatMap_output_congr
    intro place number member
    exact chapterAt_set found chapter (lt_of_mem_lines member)
  · simp [Line.output, chapterAt, List.getElem?_set_self inside]

/-- Tell the next chapter of the job with the index, when there is such a job
and such a chapter. -/
def tell? (journal : Journal Job Chapter Output) (index : Nat)
    (next : Job → List Chapter → Option Chapter) :
    Option (Job × Chapter × Journal Job Chapter Output) :=
  match found : journal.jobs[index]? with
  | none => none
  | some (job, before) =>
      (next job before).map fun chapter =>
        (job, chapter, journal.tell found chapter)

theorem tell?_eq_some {journal after : Journal Job Chapter Output}
    {index : Nat} {next : Job → List Chapter → Option Chapter} {job : Job}
    {chapter : Chapter}
    (moved : journal.tell? index next = some (job, chapter, after)) :
    ∃ (before : List Chapter)
        (found : journal.jobs[index]? = some (job, before)),
      next job before = some chapter ∧ after = journal.tell found chapter := by
  unfold tell? at moved
  split at moved
  · cases moved
  · rename_i other before found
    obtain ⟨next, comes, same⟩ := Option.map_eq_some_iff.mp moved
    cases same
    exact ⟨before, found, comes, rfl⟩

/-- Others put something out. -/
def note (output : List Output) (journal : Journal Job Chapter Output) :
    Journal Job Chapter Output where
  jobs := journal.jobs
  lines := journal.lines ++ [.others output]
  told index := by
    rw [List.filterMap_append, journal.told index]
    exact List.append_nil _

@[simp] theorem output_note (sends : Job → Chapter → List Output)
    (more : List Output) (journal : Journal Job Chapter Output) :
    (journal.note more).output sends = journal.output sends ++ more := by
  simp [output, note, Line.output]

@[simp] theorem opened_empty :
    (empty : Journal Job Chapter Output).opened = [] := rfl

end Journal

end Library
