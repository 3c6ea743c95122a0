import Discography.Daemon.Lifespan
import Discography.Proofs.MigrationAddress
import Discography.Proofs.SharedSession

/-!
# Migrating again

A data file that was migrated stays migrated. Whatever storage calls and migrations follow, one more
migration of the file succeeds and leaves every data file as it is, and the calls do what they would
do on a database that was made from the declared catalog.

* `upgrade_cases` — a migration leaves the data files, or upgrades one of them.
* `State.frame` — whatever happens changes nothing but the contents of data files.
* `Holds.again` — migrating a migrated file succeeds and leaves every file as it is.
* `Holds.run` — calls on a migrated file, with migrations among them, answer as a table does.
* `migrating_again` — so does every history that begins with an empty file.
-/

set_option autoImplicit false

namespace Discography.Migration

open Discography.Connect Discography.Store

/-! ## What a migration does to data files -/

/-- A migration with these options opens the database of an address at a location. -/
structure Opens (o : Options) (url : String) (l : Location) : Prop where
  given : url ≠ ""
  readable : Readable (addressed o url)
  opened : openLocation url = .ok l

namespace Workspace

variable {w : Workspace} {url config name path : String}

theorem file?_putFile_of_ne {other : String} (f : DataFile) (h : other ≠ name) :
    (w.putFile name f).file? other = w.file? other := by
  unfold file? putFile
  rw [List.lookup_cons, beq_eq_false_iff_ne.2 h]
  exact Settings.EnvFile.lookup_filter (fun other => other != name) (bne_iff_ne.2 h) w.files

/-- A migration with this address and configuration opens the data file of a name. -/
def Leads (w : Workspace) (url config name : String) : Prop :=
  ∃ path, Opens (w.optionsOf config) url (.file path) ∧ w.name? path = some name

theorem read_file (h : w.name? path = some name) :
    w.read (.file path) = .ok ((w.file? name).getD {}) := by
  simp only [read, h]

theorem write_file (f : DataFile) (h : w.name? path = some name) :
    w.write f (.file path) = w.putFile name f := by
  simp only [write, h]

theorem changeAt_of_read {l : Location} {f : DataFile} (hopen : openLocation url = .ok l)
    (hread : w.read l = .ok f) (change : DataFile → Except Failure DataFile) :
    w.changeAt url change =
      match change f with
      | .error e => ⟨.error e, w⟩
      | .ok g => ⟨.ok (), w.write g l⟩ := by
  unfold changeAt
  simp only [hopen, hread, bind, Except.bind, pure, Except.pure]
  cases change f <;> rfl

/-- A change of the data file of an address leaves the data files, or changes one of them. -/
theorem changeAt_cases (w : Workspace) (url : String)
    (change : DataFile → Except Failure DataFile) :
    (w.changeAt url change).workspace = w ∨
      ∃ name f, change ((w.file? name).getD {}) = .ok f ∧
        (w.changeAt url change).workspace = w.putFile name f := by
  cases hopen : openLocation url with
  | error e =>
    refine .inl ?_
    unfold changeAt
    rw [hopen]
    rfl
  | ok l =>
    cases hread : w.read l with
    | error e =>
      refine .inl ?_
      unfold changeAt
      simp only [hopen, hread, bind, Except.bind]
    | ok found =>
      rw [changeAt_of_read hopen hread]
      cases hchange : change found with
      | error e => exact .inl rfl
      | ok f =>
        cases l with
        | memory => exact .inl rfl
        | server => exact .inl rfl
        | file path =>
          cases hname : w.name? path with
          | none =>
            simp only [read, hname] at hread
            cases hread
          | some name =>
            rw [read_file hname] at hread
            cases hread
            exact .inr ⟨name, f, hchange, write_file f hname⟩

/-- **A migration leaves the data files, or upgrades one of them.** -/
theorem upgrade_cases (w : Workspace) (url config : String) :
    (w.upgrade url config).workspace = w ∨
      ∃ name f, ((w.file? name).getD {}).upgrade = .ok f ∧
        (w.upgrade url config).workspace = w.putFile name f := by
  unfold upgrade migrate
  rw [withAddress_eq]
  cases honline : onlineAddress (addressed (w.optionsOf config) url) (.ok url) with
  | error e =>
    refine .inl ?_
    simp only [honline]
  | ok found =>
    simp only [honline]
    exact w.changeAt_cases found DataFile.upgrade

theorem upgrade_of_opens_memory (h : Opens (w.optionsOf config) url .memory) :
    w.upgrade url config = ⟨.ok (), w⟩ := by
  unfold upgrade
  rw [migrate_of_readable h.given _ h.readable, changeAt_of_read h.opened rfl,
    DataFile.upgrade_fresh]
  rfl

theorem upgrade_of_leads {f : DataFile} (h : w.Leads url config name)
    (hf : ((w.file? name).getD {}).upgrade = .ok f) :
    w.upgrade url config = ⟨.ok (), w.putFile name f⟩ := by
  obtain ⟨path, hopens, hname⟩ := h
  unfold upgrade
  rw [migrate_of_readable hopens.given _ hopens.readable,
    changeAt_of_read hopens.opened (read_file hname), hf]
  simp only [write_file f hname]

end Workspace

/-- A migrated file with albums. -/
def migrated (t : Table) : DataFile := { DataFile.upgraded with albums := t }

theorem upgrade_migrated (t : Table) : (migrated t).upgrade = .ok (migrated t) :=
  DataFile.upgrade_upgraded ⟨rfl, rfl⟩

theorem database_migrated (t : Table) : (migrated t).database = .table t := rfl

/-- A file that was made from the declared catalog. -/
def declared : DataFile := { schema := catalog }

namespace Workspace

variable {w : Workspace} {name : String}

/-- A migration leaves the file of a name, or upgrades it. -/
theorem file?_upgrade_cases (w : Workspace) (url config name : String) :
    (w.upgrade url config).workspace.file? name = w.file? name ∨
      ∃ f, ((w.file? name).getD {}).upgrade = .ok f ∧
        (w.upgrade url config).workspace.file? name = some f := by
  rcases w.upgrade_cases url config with hsame | ⟨other, f, hf, hput⟩
  · exact .inl (by rw [hsame])
  · rw [hput]
    by_cases hother : name = other
    · subst hother
      exact .inr ⟨f, hf, w.file?_putFile name f⟩
    · exact .inl (file?_putFile_of_ne f hother)

/-- A migration keeps a migrated file, whichever file it leads to. -/
theorem file?_upgrade_of_migrated {t : Table} (h : w.file? name = some (migrated t))
    (url config : String) : (w.upgrade url config).workspace.file? name = some (migrated t) := by
  rcases w.file?_upgrade_cases url config name with hsame | ⟨f, hf, hfile⟩
  · rw [hsame, h]
  · rw [h, Option.getD_some, upgrade_migrated] at hf
    cases hf
    exact hfile

/-- A migration leaves an empty file empty, or upgrades it. -/
theorem file?_upgrade_of_empty (h : (w.file? name).getD {} = {}) (url config : String) :
    ((w.upgrade url config).workspace.file? name).getD {} = {} ∨
      (w.upgrade url config).workspace.file? name = some (migrated .empty) := by
  rcases w.file?_upgrade_cases url config name with hsame | ⟨f, hf, hfile⟩
  · rw [hsame]
    exact .inl h
  · rw [h, DataFile.upgrade_fresh] at hf
    cases hf
    exact .inr hfile

end Workspace

end Discography.Migration

namespace Discography.Daemon

open Discography.Connect Discography.Migration Discography.Store

/-! ## Migrations and storage calls in the process -/

/-- What can happen to data files. -/
inductive Happening where
  | migration (url config : String)
  | call (c : Call)

/-- The storage calls among what happens. -/
def callsOf : List Happening → List Call
  | [] => []
  | .migration _ _ :: hs => callsOf hs
  | .call c :: hs => c :: callsOf hs

namespace State

/-- A storage call on the database of the manager, in a scope of its own. -/
def call (p : State) (c : Call) : Except Failure c.Answer × State :=
  let result := p.database.performScoped c
  (result.outcome, p.withAlbums result.stored)

/-- The process after something has happened. -/
def afterOne (p : State) : Happening → State
  | .migration url config => (p.migrate url config).state
  | .call c => (p.call c).2

/-- The process after everything that happens. -/
def afterAll (p : State) (hs : List Happening) : State := hs.foldl afterOne p

/-- The answers to the storage calls among what happens. -/
def answers (p : State) : List Happening → List Answered
  | [] => []
  | .migration url config :: hs => (p.afterOne (.migration url config)).answers hs
  | .call c :: hs => ⟨c, (p.call c).1⟩ :: (p.afterOne (.call c)).answers hs

/-- The process with other data files. -/
def withFiles (p : State) (files : List (String × DataFile)) : State :=
  { p with workspace := { p.workspace with files } }

/-- The manager of the process is for the data file of a name. -/
def Serves (p : State) (name : String) : Prop :=
  ∃ m path, p.manager = some m ∧ locationOf m.engine.url = .file path ∧
    p.workspace.name? path = some name

/-- **Whatever happens changes nothing but data files.** -/
theorem frame_one (p : State) (h : Happening) : ∃ files, p.afterOne h = p.withFiles files := by
  cases h with
  | migration url config =>
    show ∃ files, { p with workspace := (p.workspace.upgrade url config).workspace } =
      p.withFiles files
    rcases p.workspace.upgrade_cases url config with hsame | ⟨name, f, -, hput⟩
    · exact ⟨p.workspace.files, by rw [hsame]; rfl⟩
    · exact ⟨_, by rw [hput]; rfl⟩
  | call c =>
    show ∃ files, p.withAlbums _ = p.withFiles files
    unfold withAlbums
    split
    · exact ⟨p.workspace.files, rfl⟩
    · dsimp only
      split
      · unfold Workspace.write
        split
        · split
          · exact ⟨p.workspace.files, rfl⟩
          · exact ⟨_, rfl⟩
        · exact ⟨p.workspace.files, rfl⟩
      · exact ⟨p.workspace.files, rfl⟩

theorem frame (p : State) (hs : List Happening) : ∃ files, p.afterAll hs = p.withFiles files := by
  induction hs generalizing p with
  | nil => exact ⟨p.workspace.files, rfl⟩
  | cons h hs ih =>
    obtain ⟨files, hone⟩ := p.frame_one h
    obtain ⟨files', hrest⟩ := ih (p.afterOne h)
    refine ⟨files', hrest.trans ?_⟩
    rw [hone]
    rfl

end State

/-- The manager of the process is for a migrated data file, which has these albums. -/
structure Holds (p : State) (name : String) (t : Table) : Prop where
  serves : p.Serves name
  file : p.workspace.file? name = some (migrated t)

namespace Holds

variable {p : State} {name url config : String} {t : Table}

theorem migration (h : Holds p name t) (url config : String) :
    Holds (p.afterOne (.migration url config)) name t := by
  refine ⟨?_, Workspace.file?_upgrade_of_migrated h.file url config⟩
  obtain ⟨files, hone⟩ := p.frame_one (.migration url config)
  rw [hone]
  exact h.serves

theorem call (h : Holds p name t) (c : Call) :
    ∃ t', ((Database.table t).performScoped c).stored = .table t' ∧
      (p.call c).1 = ((Database.table t).performScoped c).outcome ∧
      Holds (p.afterOne (.call c)) name t' := by
  obtain ⟨m, path, hm, hpath, hname⟩ := h.serves
  obtain ⟨t', hstored, -⟩ := follows t c
  have hread : p.workspace.read (.file path) = .ok (migrated t) := by
    rw [Workspace.read_file hname, h.file, Option.getD_some]
  have hdatabase : p.database = .table t := by
    simp only [State.database, hm, hpath, Workspace.database, hread, database_migrated]
  have hcall : p.call c = (((Database.table t).performScoped c).outcome,
      { p with workspace := p.workspace.putFile name (migrated t') }) := by
    simp only [State.call, State.withAlbums, hdatabase, hstored, hm, hpath, hread,
      Workspace.write_file _ hname]
    rfl
  refine ⟨t', hstored, by rw [hcall], ?_⟩
  show Holds (p.call c).2 name t'
  rw [hcall]
  exact ⟨h.serves, p.workspace.file?_putFile name _⟩

/-- **Calls on a migrated file answer as on a table**, with any migrations among them, and leave the
rows of that table in the file, which stays migrated. -/
theorem run (h : Holds p name t) (hs : List Happening) :
    ∃ t', (Database.table t).after (callsOf hs) = .table t' ∧
      p.answers hs = (Database.table t).answers (callsOf hs) ∧ Holds (p.afterAll hs) name t' := by
  induction hs generalizing p t with
  | nil => exact ⟨t, rfl, rfl, h⟩
  | cons happening hs ih =>
    cases happening with
    | migration url config => exact ih (h.migration url config)
    | call c =>
      obtain ⟨t₁, hstored, hanswer, hone⟩ := h.call c
      obtain ⟨t', hafter, hanswers, hrest⟩ := ih hone
      refine ⟨t', ?_, ?_, hrest⟩
      · rw [callsOf, Database.after, hstored, hafter]
      · rw [callsOf, Database.answers, State.answers, hstored, hanswer, hanswers]

/-- **Migrating a migrated file succeeds** and leaves every file as it is. -/
theorem again (h : Holds p name t) (hleads : p.workspace.Leads url config name) :
    (p.migrate url config).outcome = .ok () ∧
      ∀ other, (p.migrate url config).state.workspace.file? other = p.workspace.file? other := by
  have hupgrade := Workspace.upgrade_of_leads hleads (f := migrated t)
    (by rw [h.file, Option.getD_some, upgrade_migrated])
  unfold State.migrate
  rw [hupgrade]
  refine ⟨rfl, fun other => ?_⟩
  show (p.workspace.putFile name (migrated t)).file? other = p.workspace.file? other
  by_cases hother : other = name
  · rw [hother, Workspace.file?_putFile, h.file]
  · exact Workspace.file?_putFile_of_ne _ hother

end Holds

/-! ## Whole histories -/

section Histories

variable {p : State} {name url config : String}

/-- Migrations alone, whatever they lead to, leave an empty file empty or migrate it. -/
theorem empty_or_holds {before : List Happening} (hserves : p.Serves name)
    (hempty : (p.workspace.file? name).getD {} = {}) (hbefore : callsOf before = []) :
    ((p.afterAll before).workspace.file? name).getD {} = {} ∨
      Holds (p.afterAll before) name .empty := by
  induction before generalizing p with
  | nil => exact .inl hempty
  | cons happening before ih =>
    cases happening with
    | call c => cases hbefore
    | migration url config =>
      have hserves' : (p.afterOne (.migration url config)).Serves name := by
        obtain ⟨files, hone⟩ := p.frame_one (.migration url config)
        rw [hone]
        exact hserves
      have hrest : callsOf before = [] := hbefore
      rcases Workspace.file?_upgrade_of_empty hempty url config with hstill | hfile
      · exact ih hserves' hstill hrest
      -- Once migrated, the file takes part in a run without calls.
      · obtain ⟨t, hafter, -, hholds⟩ := (Holds.mk hserves' hfile).run before
        rw [hrest] at hafter
        cases hafter
        exact .inr hholds

/-- A migration that leads to a file without albums, empty or migrated, succeeds and migrates it. -/
theorem holds_of_leads (hserves : p.Serves name)
    (hfile : (p.workspace.file? name).getD {} = {} ∨ Holds p name .empty)
    (hleads : p.workspace.Leads url config name) :
    (p.migrate url config).outcome = .ok () ∧ Holds (p.migrate url config).state name .empty := by
  have hupgraded : ((p.workspace.file? name).getD {}).upgrade = .ok (migrated .empty) := by
    rcases hfile with hempty | hheld
    · rw [hempty]
      exact DataFile.upgrade_fresh
    · rw [hheld.file]
      exact upgrade_migrated .empty
  have hupgrade := Workspace.upgrade_of_leads hleads hupgraded
  unfold State.migrate
  rw [hupgrade]
  exact ⟨rfl, hserves, p.workspace.file?_putFile name _⟩

end Histories

/-- **Migrating again changes nothing.** Let the data file of a process be empty or not there yet.
After any migrations, a migration that leads to the file succeeds. After that, and after any storage
calls and migrations that follow, one more migration that leads to the file succeeds and leaves
every data file as it is, its rows and its schema; and so does a migration of a database in memory,
which is a new one each time. All the calls answer as on a database that was made from the declared
catalog, the file has the rows that this database then has, and its table of albums and the indexes
on it are the declared ones. No server of a workspace answers, so that this speaks of files and of
databases in memory; a migration that leads to a server is one of those that fail. -/
theorem migrating_again (p : State) {name url config : String} (hserves : p.Serves name)
    (hempty : (p.workspace.file? name).getD {} = {}) (hleads : p.workspace.Leads url config name)
    (before : List Happening) (hbefore : callsOf before = []) (happenings : List Happening) :
    let first := (p.afterAll before).migrate url config
    let q := first.state.afterAll happenings
    first.outcome = .ok () ∧
    (∀ url' config', p.workspace.Leads url' config' name →
      (q.migrate url' config').outcome = .ok () ∧
        ∀ other, (q.migrate url' config').state.workspace.file? other =
          q.workspace.file? other) ∧
    (∀ url' config', Opens (p.workspace.optionsOf config') url' .memory →
      (q.migrate url' config').outcome = .ok () ∧ (q.migrate url' config').state = q) ∧
    first.state.answers happenings = declared.database.answers (callsOf happenings) ∧
    ∃ f, q.workspace.file? name = some f ∧
      f.database = declared.database.after (callsOf happenings) ∧
      f.schema.table? albumsName = declared.schema.table? albumsName ∧
      f.schema.indexesOn albumsName = declared.schema.indexesOn albumsName := by
  intro first q
  obtain ⟨files, hstart⟩ := p.frame before
  obtain ⟨hfirst, hholds⟩ : first.outcome = .ok () ∧ Holds first.state name .empty := by
    refine holds_of_leads ?_ (empty_or_holds hserves hempty hbefore) ?_
    · rw [hstart]
      exact hserves
    · rw [hstart]
      exact hleads
  obtain ⟨t, hafter, hanswers, hq⟩ := hholds.run happenings
  obtain ⟨files', hall⟩ : ∃ files', q = p.withFiles files' := by
    obtain ⟨files', hend⟩ := p.frame (before ++ .migration url config :: happenings)
    refine ⟨files', hend ▸ ?_⟩
    rw [State.afterAll, List.foldl_append]
    rfl
  refine ⟨hfirst, ?again, ?memory, hanswers, migrated t, hq.file, hafter.symm, rfl, rfl⟩
  case again =>
    intro url' config' h
    refine hq.again ?_
    show q.workspace.Leads url' config' name
    rw [hall]
    exact h
  case memory =>
    intro url' config' h
    have hopens : Opens (q.workspace.optionsOf config') url' .memory := by
      rw [hall]
      exact h
    unfold State.migrate
    rw [Workspace.upgrade_of_opens_memory hopens]
    exact ⟨rfl, rfl⟩

/-- An album that is added to a migrated file, with migrations that lead elsewhere, that fail, and
that lead to the file again. -/
theorem migrating_again_with_album :
    let url := "sqlite+aiosqlite:////srv/catalog.db"
    let u : Url := ⟨"sqlite+aiosqlite", none, none, none, none, some "/srv/catalog.db", []⟩
    let p : State :=
      { workspace :=
          { directory := "/srv", configurations := [("alembic.ini", standardOptions "/srv")] }
        manager := some ⟨0, ⟨u, .queue 20 10, true⟩⟩ }
    let before : List Happening :=
      [.migration "sqlite+aiosqlite:///other.db" "alembic.ini", .migration url "missing.ini"]
    let first := (p.afterAll before).migrate url "alembic.ini"
    let happenings : List Happening :=
      [.call (.insert hejira), .migration url "alembic.ini", .call (.findOne hejira.id)]
    let q := first.state.afterAll happenings
    p.Serves "catalog.db" ∧ p.workspace.file? "catalog.db" = none ∧
      p.workspace.Leads url "alembic.ini" "catalog.db" ∧ callsOf before = [] ∧
      (first.state.answers happenings).map Answered.succeeded = [true, true] ∧
      (q.migrate url "alembic.ini").outcome = .ok () ∧
      ∀ other, (q.migrate url "alembic.ini").state.workspace.file? other =
        q.workspace.file? other := by
  intro url u p before first happenings q
  have hserves : p.Serves "catalog.db" :=
    ⟨_, "/srv/catalog.db", rfl, by decide +kernel, by decide +kernel⟩
  have hleads : p.workspace.Leads url "alembic.ini" "catalog.db" := by
    have hoptions : p.workspace.optionsOf "alembic.ini" = standardOptions "/srv" := by
      decide +kernel
    have hopened : openLocation url = .ok (.file "/srv/catalog.db") :=
      ok_of_toOption (by decide +kernel)
    refine ⟨"/srv/catalog.db", ⟨by decide, ?_, hopened⟩, by decide +kernel⟩
    rw [hoptions]
    exact readable_standard (by decide) url
  obtain ⟨-, hagain, -, hanswers, -⟩ :=
    migrating_again p hserves rfl hleads before rfl happenings
  refine ⟨hserves, rfl, hleads, rfl, ?_, hagain url "alembic.ini" hleads⟩
  rw [hanswers]
  decide +kernel

end Discography.Daemon
