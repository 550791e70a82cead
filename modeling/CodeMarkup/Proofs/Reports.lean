import CodeMarkup.Proofs.Files.Tree
import CodeMarkup.Proofs.Runs
/-!
# What a report changes

A report writes to files that handlers hold open, and to nothing else. Every handler stays at its file, and
where there was a file, a directory or nothing there still is (`report_disturbs`). Without a log file nothing
changes in the tree at all (`report_files`).

Looking things up leaves nothing but reports behind (`OnlyReports`), and what is written to the standard output
keeps the files too (`KeepsFiles`). Both are shown step by step.
-/

namespace CodeMarkup

open CodeMarkup.Files CodeMarkup.Log CodeMarkup.Text

namespace Log

/-- The place of the file that is written to. -/
def Target.place? : Target → Option Place
  | .file place _ => some place
  | _ => none

/-- Where handlers write. -/
def placesOf (handlers : List Handler) : List Place := handlers.filterMap (·.target.place?)

theorem ownLevel_congr {log log' : Log} (h : log'.levels = log.levels) (logger : String) :
    log'.ownLevel logger = log.ownLevel logger := by
  rw [ownLevel, ownLevel, h]

theorem levelFrom_congr {log log' : Log} (h : log'.levels = log.levels) (parts : List (List Char)) :
    log'.levelFrom parts = log.levelFrom parts := by
  fun_induction levelFrom log parts with
  | case1 => rfl
  | _ => rw [levelFrom.eq_def]; simp_all

/-- What passes is told by the levels alone. -/
theorem passes_congr {log log' : Log} (h : log'.levels = log.levels) : log'.passes = log.passes := by
  funext notice
  rw [passes, passes, level, level, ownLevel_congr h, levelFrom_congr h]

end Log

/-- Only the content of files at these places changes. -/
structure Disturbs (places : List Place) (files files' : Tree) : Prop where
  elsewhere : ∀ place, place ∉ places → Tree.lookup? files' place = Tree.lookup? files place
  kinds : Tree.SameKinds files files'

namespace Disturbs

theorem refl (places : List Place) (files : Tree) : Disturbs places files files :=
  ⟨fun _ _ => rfl, fun _ => rfl⟩

theorem trans {places places' : List Place} {files files' files'' : Tree} (h : Disturbs places files files')
    (h' : Disturbs places' files' files'') : Disturbs (places ++ places') files files'' where
  elsewhere place hp := by
    rw [List.mem_append, not_or] at hp
    rw [h'.elsewhere place hp.2, h.elsewhere place hp.1]
  kinds place := (h'.kinds place).trans (h.kinds place)

theorem put {files : Tree} {place : Place} {content : ByteArray}
    (h : Tree.lookup? files place = some (.file content)) (content' : ByteArray) :
    Disturbs [place] files (Tree.put files place (.file content')) := by
  have hne : place.names ≠ [] := by
    intro hn
    rw [Tree.lookup?_anchor files hn] at h
    cases h
  refine ⟨fun other hp => ?_, fun other => ?_⟩
  · exact Tree.lookup?_put_of_ne files (fun he => hp (List.mem_singleton.2 he.symm)) _
  · by_cases he : place = other
    · rw [← he, Tree.lookup?_put_self files hne, h]
      rfl
    · rw [Tree.lookup?_put_of_ne files he]

theorem sameDirectories {places : List Place} {files files' : Tree} (h : Disturbs places files files') :
    Tree.SameDirectories files files' := h.kinds.sameDirectories

end Disturbs

namespace Workspace

theorem handOver_disturbs (workspace : Workspace) (line : CodePoints) (handler : Handler) :
    Disturbs (placesOf [handler]) workspace.files (workspace.handOver line handler).1.files ∧
      (workspace.handOver line handler).2.target.place? = handler.target.place? := by
  obtain ⟨target, level⟩ := handler
  cases target with
  | file place position =>
    simp only [handOver]
    split
    · next hfile _ => exact ⟨Disturbs.put hfile _, rfl⟩
    · exact ⟨Disturbs.refl _ _, rfl⟩
  | lostFile => exact ⟨Disturbs.refl _ _, rfl⟩
  | console => exact ⟨Disturbs.refl _ _, rfl⟩
  | nowhere => exact ⟨Disturbs.refl _ _, rfl⟩

/-- What a handler makes of a notice. -/
def offer (workspace : Workspace) (notice : Notice) (handler : Handler) : Workspace × Handler :=
  if handler.level ≤ notice.severity.level then workspace.handOver (notice.line workspace.time) handler
  else (workspace, handler)

theorem handle_cons (workspace : Workspace) (notice : Notice) (handler : Handler) (rest : List Handler) :
    workspace.handle notice (handler :: rest) =
      (((workspace.offer notice handler).1.handle notice rest).1,
        (workspace.offer notice handler).2 :: ((workspace.offer notice handler).1.handle notice rest).2) :=
  rfl

theorem offer_disturbs (workspace : Workspace) (notice : Notice) (handler : Handler) :
    Disturbs (placesOf [handler]) workspace.files (workspace.offer notice handler).1.files ∧
      (workspace.offer notice handler).2.target.place? = handler.target.place? := by
  rw [offer]
  split
  · exact workspace.handOver_disturbs _ handler
  · exact ⟨Disturbs.refl _ _, rfl⟩

theorem handle_disturbs (workspace : Workspace) (notice : Notice) (handlers : List Handler) :
    Disturbs (placesOf handlers) workspace.files (workspace.handle notice handlers).1.files ∧
      placesOf (workspace.handle notice handlers).2 = placesOf handlers := by
  induction handlers generalizing workspace with
  | nil => exact ⟨Disturbs.refl _ _, rfl⟩
  | cons handler rest ih =>
    obtain ⟨hfirst, hplace⟩ := workspace.offer_disturbs notice handler
    obtain ⟨hrest, hplaces⟩ := ih (workspace.offer notice handler).1
    rw [handle_cons]
    refine ⟨?_, ?_⟩
    · have hboth := hfirst.trans hrest
      rwa [placesOf, placesOf, ← List.filterMap_append] at hboth
    · rw [placesOf] at hplaces ⊢
      rw [List.filterMap_cons, hplace, hplaces, placesOf, placesOf, List.filterMap_cons]

/-- A report changes no more than the content of files that handlers write to, and leaves the handlers at
these files. -/
theorem report_disturbs (workspace : Workspace) (notice : Notice) :
    Disturbs (placesOf workspace.log.handlers) workspace.files (workspace.report notice).files ∧
      placesOf (workspace.report notice).log.handlers = placesOf workspace.log.handlers := by
  rw [report]
  split
  · exact workspace.handle_disturbs notice workspace.log.handlers
  · exact ⟨Disturbs.refl _ _, rfl⟩

/-! ## What the handlers become -/

/-- All but the content of files and the error output is the same. -/
structure Keeps (workspace left : Workspace) : Prop where
  entries : Keyed.keys left.files = Keyed.keys workspace.files
  time : left.time = workspace.time
  log : left.log = workspace.log
  notices : left.notices = workspace.notices
  output : left.output = workspace.output

theorem Keeps.refl (workspace : Workspace) : Keeps workspace workspace := ⟨rfl, rfl, rfl, rfl, rfl⟩

theorem Keeps.trans {workspace left last : Workspace} (h : Keeps workspace left) (h' : Keeps left last) :
    Keeps workspace last :=
  ⟨h'.entries.trans h.entries, h'.time.trans h.time, h'.log.trans h.log, h'.notices.trans h.notices,
    h'.output.trans h.output⟩

theorem offer_keeps (workspace : Workspace) (notice : Notice) (handler : Handler) :
    Keeps workspace (workspace.offer notice handler).1 := by
  rw [offer]
  split
  · rw [handOver]
    split
    · split
      · next hfile _ => exact ⟨Tree.keys_put hfile _, rfl, rfl, rfl, rfl⟩
      · exact .refl _
    · exact ⟨rfl, rfl, rfl, rfl, rfl⟩
    · exact .refl _
    · exact .refl _
  · exact .refl _

theorem handle_keeps (workspace : Workspace) (notice : Notice) (handlers : List Handler) :
    Keeps workspace (workspace.handle notice handlers).1 := by
  induction handlers generalizing workspace with
  | nil => exact .refl _
  | cons handler rest ih =>
    rw [handle_cons]
    exact (workspace.offer_keeps notice handler).trans (ih _)

/-- A report makes no entries in the tree and moves none. -/
theorem report_entries (workspace : Workspace) (notice : Notice) :
    Keyed.keys (workspace.report notice).files = Keyed.keys workspace.files := by
  rw [report]
  split
  · exact (workspace.handle_keeps notice _).entries
  · rfl

theorem report_time (workspace : Workspace) (notice : Notice) :
    (workspace.report notice).time = workspace.time := by
  rw [report]
  split
  · exact (workspace.handle_keeps notice _).time
  · rfl

theorem report_output (workspace : Workspace) (notice : Notice) :
    (workspace.report notice).output = workspace.output := by
  rw [report]
  split
  · exact (workspace.handle_keeps notice _).output
  · rfl

/-- A notice is recorded when it passes its logger. -/
theorem report_notices (workspace : Workspace) (notice : Notice) :
    (workspace.report notice).notices = workspace.notices ++ [notice].filter workspace.log.passes := by
  rw [report]
  split
  · next hpasses =>
    rw [List.filter_cons_of_pos hpasses]
    exact congrArg (· ++ [notice]) (workspace.handle_keeps notice _).notices
  · next hpasses =>
    rw [List.filter_cons_of_neg hpasses]
    exact (List.append_nil _).symm

theorem report_log (workspace : Workspace) (notice : Notice) :
    (workspace.report notice).log =
      if workspace.log.passes notice then
        { workspace.log with handlers := (workspace.handle notice workspace.log.handlers).2 }
      else workspace.log := by
  rw [report]
  split
  · show ({ (workspace.handle notice workspace.log.handlers).1.log with
      handlers := (workspace.handle notice workspace.log.handlers).2 } : Log) = _
    rw [(workspace.handle_keeps notice _).log]
  · rfl

/-- At the same time, and with files and directories at the same ones of these places. -/
structure AlikeAt (places : List Place) (workspace other : Workspace) : Prop where
  time : other.time = workspace.time
  kinds : ∀ place ∈ places, (Tree.lookup? other.files place).map Entry.emptied =
    (Tree.lookup? workspace.files place).map Entry.emptied

theorem AlikeAt.offer {places : List Place} {workspace other : Workspace} (h : AlikeAt places workspace other)
    (notice : Notice) (handler : Handler) :
    AlikeAt places (workspace.offer notice handler).1 (other.offer notice handler).1 where
  time := by rw [(offer_keeps ..).time, (offer_keeps ..).time, h.time]
  kinds place hm := by
    rw [(workspace.offer_disturbs notice handler).1.kinds, (other.offer_disturbs notice handler).1.kinds,
      h.kinds place hm]

theorem AlikeAt.handler {handler : Handler} {workspace other : Workspace}
    (h : AlikeAt (placesOf [handler]) workspace other) (notice : Notice) :
    (other.offer notice handler).2 = (workspace.offer notice handler).2 := by
  simp only [Workspace.offer, h.time]
  split
  · obtain ⟨target, level⟩ := handler
    cases target with
    | file place position =>
      have hkind := h.kinds place (List.mem_singleton.2 rfl)
      simp only [handOver]
      -- Only whether there is a file counts, not what is in it.
      generalize Tree.lookup? workspace.files place = entry at hkind
      generalize Tree.lookup? other.files place = entry' at hkind
      cases encodable (notice.line workspace.time) <;>
        rcases entry with _ | _ | _ | _ <;> rcases entry' with _ | _ | _ | _ <;>
          simp [Entry.emptied] at hkind ⊢
    | _ => rfl
  · rfl

/-- What the handlers become does not depend on what is in the files. -/
theorem AlikeAt.handlers {handlers : List Handler} {workspace other : Workspace}
    (h : AlikeAt (placesOf handlers) workspace other) (notice : Notice) :
    (other.handle notice handlers).2 = (workspace.handle notice handlers).2 := by
  induction handlers generalizing workspace other with
  | nil => rfl
  | cons handler rest ih =>
    have hsplit : placesOf (handler :: rest) = placesOf [handler] ++ placesOf rest := by
      rw [placesOf, placesOf, placesOf, ← List.filterMap_append]
      rfl
    rw [hsplit] at h
    have hfirst : AlikeAt (placesOf [handler]) workspace other :=
      ⟨h.time, fun place hm => h.kinds place (List.mem_append_left _ hm)⟩
    have hrest : AlikeAt (placesOf rest) workspace other :=
      ⟨h.time, fun place hm => h.kinds place (List.mem_append_right _ hm)⟩
    rw [handle_cons, handle_cons, hfirst.handler notice, ih (hrest.offer notice handler)]

/-! ## Without a log file -/

/-- No handler writes to a file. -/
def Unlogged (workspace : Workspace) : Prop := placesOf workspace.log.handlers = []

theorem handle_files {handlers : List Handler} (h : placesOf handlers = []) (workspace : Workspace)
    (notice : Notice) : (workspace.handle notice handlers).1.files = workspace.files := by
  induction handlers generalizing workspace with
  | nil => rfl
  | cons handler rest ih =>
    rw [placesOf, List.filterMap_eq_nil_iff, List.forall_mem_cons] at h
    rw [handle_cons]
    refine (ih (List.filterMap_eq_nil_iff.2 h.2) _).trans ?_
    rw [offer]
    split
    · obtain ⟨target, level⟩ := handler
      cases target with
      | file place position => cases h.1
      | _ => rfl
    · rfl

theorem Unlogged.report {workspace : Workspace} (h : workspace.Unlogged) (notice : Notice) :
    (workspace.report notice).Unlogged := (workspace.report_disturbs notice).2.trans h

theorem report_files {workspace : Workspace} (h : workspace.Unlogged) (notice : Notice) :
    (workspace.report notice).files = workspace.files := by
  rw [Workspace.report]
  split
  · exact handle_files h workspace notice
  · rfl

/-! ## Reports one after the other -/

/-- Reports notices in order. -/
def reportAll (workspace : Workspace) (notices : List Notice) : Workspace :=
  notices.foldl Workspace.report workspace

theorem reportAll_append (workspace : Workspace) (notices later : List Notice) :
    workspace.reportAll (notices ++ later) = (workspace.reportAll notices).reportAll later :=
  List.foldl_append

theorem reportAll_disturbs (workspace : Workspace) (notices : List Notice) :
    Disturbs (placesOf workspace.log.handlers) workspace.files (workspace.reportAll notices).files := by
  induction notices generalizing workspace with
  | nil => exact .refl _ _
  | cons notice rest ih =>
    obtain ⟨hfirst, hplaces⟩ := workspace.report_disturbs notice
    have hrest := ih (workspace.report notice)
    rw [hplaces] at hrest
    exact ⟨fun place hm => (hrest.elsewhere place hm).trans (hfirst.elsewhere place hm),
      fun place => (hrest.kinds place).trans (hfirst.kinds place)⟩

theorem reportAll_kinds (workspace : Workspace) (notices : List Notice) :
    Tree.SameKinds workspace.files (workspace.reportAll notices).files :=
  (workspace.reportAll_disturbs notices).kinds

theorem reportAll_entries (workspace : Workspace) (notices : List Notice) :
    Keyed.keys (workspace.reportAll notices).files = Keyed.keys workspace.files := by
  induction notices generalizing workspace with
  | nil => rfl
  | cons notice rest ih => exact (ih (workspace.report notice)).trans (workspace.report_entries notice)

theorem reportAll_output (workspace : Workspace) (notices : List Notice) :
    (workspace.reportAll notices).output = workspace.output := by
  induction notices generalizing workspace with
  | nil => rfl
  | cons notice rest ih => exact (ih (workspace.report notice)).trans (workspace.report_output notice)

theorem passes_report (workspace : Workspace) (notice : Notice) :
    (workspace.report notice).log.passes = workspace.log.passes := by
  apply passes_congr
  rw [report_log]
  split <;> rfl

/-- Of notices in order those are recorded that pass their loggers. -/
theorem reportAll_notices (workspace : Workspace) (notices : List Notice) :
    (workspace.reportAll notices).notices = workspace.notices ++ notices.filter workspace.log.passes := by
  induction notices generalizing workspace with
  | nil => exact (List.append_nil _).symm
  | cons notice rest ih =>
    refine (ih (workspace.report notice)).trans ?_
    rw [report_notices, passes_report, List.append_assoc, ← List.filter_append, List.singleton_append]

theorem Unlogged.reportAll {workspace : Workspace} (h : workspace.Unlogged) (notices : List Notice) :
    (workspace.reportAll notices).Unlogged ∧ (workspace.reportAll notices).files = workspace.files := by
  induction notices generalizing workspace with
  | nil => exact ⟨h, rfl⟩
  | cons notice rest ih =>
    obtain ⟨hlog, hfiles⟩ := ih (h.report notice)
    exact ⟨hlog, hfiles.trans (report_files h notice)⟩

end Workspace

/-! ## Attempts that leave reports -/

section OnlyReports

variable {α β : Type}

/-- An attempt that changes the workspace by reports alone. -/
def OnlyReports (attempt : Attempt α) : Prop :=
  ∀ workspace, ∃ notices, (outcome attempt workspace).2 = workspace.reportAll notices

theorem OnlyReports.pure (a : α) : OnlyReports (pure a) := fun _ => ⟨[], rfl⟩

theorem OnlyReports.throw (failure : Failure) : OnlyReports (throw failure : Attempt α) := fun _ => ⟨[], rfl⟩

theorem OnlyReports.get : OnlyReports (get : Attempt Workspace) := fun _ => ⟨[], rfl⟩

theorem OnlyReports.ofExcept (result : Except Failure α) : OnlyReports (MonadExcept.ofExcept result) :=
  fun workspace => ⟨[], by rw [outcome_ofExcept]; rfl⟩

theorem OnlyReports.report (notice : Notice) : OnlyReports (liftM (CodeMarkup.report notice) : Attempt Unit) :=
  fun _ => ⟨[notice], rfl⟩

theorem OnlyReports.lift {action : Action α}
    (h : ∀ workspace, ∃ notices, (effect action workspace).2 = workspace.reportAll notices) :
    OnlyReports (liftM action : Attempt α) := h

theorem OnlyReports.bind {attempt : Attempt α} {next : α → Attempt β} (h : OnlyReports attempt)
    (hnext : ∀ a, OnlyReports (next a)) : OnlyReports (attempt >>= next) := by
  intro workspace
  obtain ⟨notices, hnotices⟩ := h workspace
  rw [outcome_bind]
  split
  · next a left heq =>
    rw [heq] at hnotices
    obtain ⟨later, hlater⟩ := hnext a left
    exact ⟨notices ++ later, by rw [Workspace.reportAll_append, ← hnotices, hlater]⟩
  · next failure left heq =>
    rw [heq] at hnotices
    exact ⟨notices, hnotices⟩

/-- Without a log file such an attempt leaves the tree as it is. -/
theorem OnlyReports.files_eq {attempt : Attempt α} (h : OnlyReports attempt) {workspace : Workspace}
    (hlog : workspace.Unlogged) :
    (outcome attempt workspace).2.Unlogged ∧ (outcome attempt workspace).2.files = workspace.files := by
  obtain ⟨notices, hnotices⟩ := h workspace
  rw [hnotices]
  exact hlog.reportAll notices

theorem OnlyReports.mapM {f : α → Attempt β} (h : ∀ a, OnlyReports (f a)) (list : List α) :
    OnlyReports (list.mapM f) := by
  induction list with
  | nil =>
    rw [List.mapM_nil]
    exact .pure []
  | cons a rest ih =>
    rw [List.mapM_cons]
    exact (h a).bind fun _ => ih.bind fun _ => .pure _

/-- Attempts in a row, each of which gives the same whatever has been reported, give that. -/
theorem OnlyReports.outcome_mapM {f : α → Attempt β} (h : ∀ a, OnlyReports (f a)) {g : α → Except Failure β}
    {list : List α} {workspace : Workspace}
    (hg : ∀ a ∈ list, ∀ notices, (outcome (f a) (workspace.reportAll notices)).1 = g a) (notices : List Notice) :
    (outcome (list.mapM f) (workspace.reportAll notices)).1 = list.mapM g := by
  induction list generalizing notices with
  | nil => rfl
  | cons a rest ih =>
    rw [List.forall_mem_cons] at hg
    have hfirst := hg.1 notices
    obtain ⟨later, hleft⟩ := h a (workspace.reportAll notices)
    rw [← Workspace.reportAll_append] at hleft
    have hrest := ih hg.2 (notices ++ later)
    rw [← hleft] at hrest
    rw [List.mapM_cons, List.mapM_cons, outcome_bind, ← hfirst]
    generalize outcome (f a) (workspace.reportAll notices) = result at hrest ⊢
    obtain ⟨failure | b, left⟩ := result
    · rfl
    · show (outcome (rest.mapM f >>= fun others => Pure.pure (b :: others)) left).1 =
        rest.mapM g >>= fun others => Pure.pure (b :: others)
      rw [outcome_bind, ← hrest]
      generalize outcome (rest.mapM f) left = result
      obtain ⟨failure | others, last⟩ := result <;> rfl

end OnlyReports

/-! ## Attempts that give the same -/

section Agree

variable {α β : Type} {files : Tree}

/-- Without a log file both attempts leave reports alone behind, and where these are the files they give the same. -/
structure Agree (files : Tree) (attempt other : Attempt α) : Prop where
  reports : OnlyReports attempt
  reports' : OnlyReports other
  same : ∀ workspace workspace', workspace.Unlogged → workspace'.Unlogged → workspace.files = files →
    workspace'.files = files → (outcome other workspace').1 = (outcome attempt workspace).1

theorem Agree.pure (a : α) : Agree files (pure a) (pure a) := ⟨.pure a, .pure a, fun _ _ _ _ _ _ => rfl⟩

/-- An attempt agrees with itself if the files tell what it gives. -/
theorem Agree.of_files {attempt : Attempt α} (h : OnlyReports attempt)
    (hsame : ∀ workspace workspace' : Workspace, workspace'.files = workspace.files →
      (outcome attempt workspace').1 = (outcome attempt workspace).1) : Agree files attempt attempt :=
  ⟨h, h, fun workspace workspace' _ _ hfiles hfiles' => hsame workspace workspace' (hfiles'.trans hfiles.symm)⟩

/-- Attempts that begin by agreeing, and go on agreeing, agree. -/
theorem Agree.bind {attempt other : Attempt α} {next next' : α → Attempt β} (h : Agree files attempt other)
    (hnext : ∀ a, Agree files (next a) (next' a)) : Agree files (attempt >>= next) (other >>= next') := by
  refine ⟨h.reports.bind fun a => (hnext a).reports, h.reports'.bind fun a => (hnext a).reports', ?_⟩
  intro workspace workspace' hlog hlog' hfiles hfiles'
  have hsame := h.same workspace workspace' hlog hlog' hfiles hfiles'
  obtain ⟨hleft, hleftFiles⟩ := h.reports.files_eq hlog
  obtain ⟨hleft', hleftFiles'⟩ := h.reports'.files_eq hlog'
  rw [outcome_bind, outcome_bind]
  generalize outcome attempt workspace = result at hsame hleft hleftFiles
  generalize outcome other workspace' = result' at hsame hleft' hleftFiles'
  obtain ⟨result, left⟩ := result
  obtain ⟨result', left'⟩ := result'
  cases hsame
  cases result with
  | error failure => rfl
  | ok a => exact (hnext a).same left left' hleft hleft' (hleftFiles.trans hfiles) (hleftFiles'.trans hfiles')

theorem Agree.mapM {f : α → Attempt β} (h : ∀ a, Agree files (f a) (f a)) (list : List α) :
    Agree files (list.mapM f) (list.mapM f) := by
  induction list with
  | nil =>
    rw [List.mapM_nil]
    exact .pure []
  | cons a rest ih =>
    rw [List.mapM_cons]
    exact (h a).bind fun _ => ih.bind fun _ => .pure _

end Agree

/-! ## Attempts that keep the files -/

section KeepsFiles

variable {α β : Type}

/-- Without a log file the attempt leaves the tree as it is. -/
def KeepsFiles (attempt : Attempt α) : Prop :=
  ∀ workspace : Workspace, workspace.Unlogged →
    (outcome attempt workspace).2.Unlogged ∧ (outcome attempt workspace).2.files = workspace.files

theorem KeepsFiles.pure (a : α) : KeepsFiles (pure a) := fun _ h => ⟨h, rfl⟩

theorem KeepsFiles.bind {attempt : Attempt α} {next : α → Attempt β} (h : KeepsFiles attempt)
    (hnext : ∀ a, KeepsFiles (next a)) : KeepsFiles (attempt >>= next) := by
  intro workspace hlog
  obtain ⟨hlog', hfiles⟩ := h workspace hlog
  rw [outcome_bind]
  generalize outcome attempt workspace = result at hlog' hfiles
  obtain ⟨failure | a, left⟩ := result
  · exact ⟨hlog', hfiles⟩
  · obtain ⟨hlast, hlastFiles⟩ := hnext a left hlog'
    exact ⟨hlast, hlastFiles.trans hfiles⟩

theorem OnlyReports.keepsFiles {attempt : Attempt α} (h : OnlyReports attempt) : KeepsFiles attempt :=
  fun _ hlog => h.files_eq hlog

theorem keepsFiles_print (text : CodePoints) : KeepsFiles (print text) := by
  intro workspace hlog
  rw [print]
  cases encodable text <;> exact ⟨hlog, rfl⟩

end KeepsFiles

end CodeMarkup
