import Discography.Daemon.State

/-!
# The address that a migration works on

A migration puts the address of the database into the options of its configuration file, where a
percent sign begins a reference, and takes it out again: online among all other options, offline by
itself. Any address can be put in, and it comes out as it was, whatever the settings say.

* `withAddress_eq`, `raw?_addressed` — the address is put in and all other options stay.
* `databaseAddress_addressed`, `onlineAddress_addressed` — it comes out as it was.
* `readable_standard` — the configuration that comes with the service can always be read.
* `address_kept` — so that it is the database of that address that is migrated, or that a script is
  written for.
-/

set_option autoImplicit false

namespace Discography.Migration

/-! ## Putting an address in -/

/-- Options with the address of a database, its percent signs doubled. -/
def addressed (o : Options) (url : String) : Options :=
  o ++ [(addressOption, String.ofList (doubled url.toList))]

theorem raw?_concat (o : Options) (name value name' : String) :
    Options.raw? (o ++ [(name, value)]) name' =
      if name' = name then some value else o.raw? name' := by
  unfold Options.raw?
  rw [List.reverse_append, List.reverse_singleton, List.singleton_append, List.lookup_cons]
  by_cases h : name' = name
  · rw [if_pos h, beq_iff_eq.2 h]
  · rw [if_neg h, beq_eq_false_iff_ne.2 h]

/-- **Any address can be put in.** -/
theorem withAddress_eq (o : Options) (url : String) :
    withAddress o url = some (addressed o url) := by
  unfold withAddress Options.set?
  rw [String.toList_ofList, isWellFormed_doubled, if_pos rfl]
  rfl

theorem raw?_addressed (o : Options) (url : String) {name : String} (h : name ≠ addressOption) :
    (addressed o url).raw? name = o.raw? name := by
  unfold addressed
  rw [raw?_concat, if_neg h]

/-! ## Taking it out -/

/-- Options that an online migration can read: it is told where the revisions are, and the
references of every option can be replaced. -/
structure Readable (o : Options) : Prop where
  revisions : checkRevisions o = .ok ()
  options : o.readAll?.isSome = true

section TakenOut

variable {o : Options} {url : String} {settings : Except Failure String}

theorem get?_addressed : (addressed o url).get? addressOption = some (some url) := by
  unfold Options.get? addressed
  rw [raw?_concat, if_pos rfl]
  simp only [String.toList_ofList, expand_doubled, Option.map_some, String.ofList_toList]

theorem heldAddress_addressed (h : url ≠ "") : heldAddress (addressed o url) = .ok (some url) := by
  unfold heldAddress
  rw [get?_addressed]
  exact congrArg Except.ok (if_neg h)

/-- The settings are not asked for an address that the options hold. -/
theorem databaseAddress_addressed (h : url ≠ "") :
    databaseAddress (addressed o url) settings = .ok url := by
  unfold databaseAddress
  rw [heldAddress_addressed h]
  rfl

theorem onlineAddress_addressed (h : url ≠ "") (hread : Readable (addressed o url)) :
    onlineAddress (addressed o url) settings = .ok url := by
  obtain ⟨read, hoptions⟩ := Option.isSome_iff_exists.1 hread.options
  have honline : onlineOptions (addressed o url) settings =
      .ok (read ++ [(addressOption, url)]) := by
    unfold onlineOptions
    rw [hoptions, databaseAddress_addressed h]
    rfl
  unfold onlineAddress
  rw [hread.revisions, honline]
  show Except.ok ((Options.raw? (read ++ [(addressOption, url)]) addressOption).getD "") = .ok url
  rw [raw?_concat, if_pos rfl]
  rfl

/-- An online migration that cannot read its options comes to no address. -/
theorem onlineAddress_of_not_readable (settings : Except Failure String) (h : ¬ Readable o) :
    ∃ f, onlineAddress o settings = .error f := by
  unfold onlineAddress
  cases hrevisions : checkRevisions o with
  | error f => exact ⟨f, rfl⟩
  | ok u =>
    cases hoptions : o.readAll? with
    | none =>
      refine ⟨optionUnreadable, ?_⟩
      unfold onlineOptions
      rw [hoptions]
      rfl
    | some read =>
      exact absurd ⟨hrevisions, Option.isSome_iff_exists.2 ⟨read, hoptions⟩⟩ h

end TakenOut

/-! ## The configuration that comes with the service -/

theorem expand_plain (lookup : List Char → Option (List Char)) (depth : Nat) {s : List Char}
    (h : '%' ∉ s) : expand lookup depth s = some s := by
  have hdoubled : doubled s = s := by
    induction s with
    | nil => rfl
    | cons c r ih =>
      obtain ⟨hc, hr⟩ := not_or.1 (mt List.mem_cons.2 h)
      rw [doubled, if_neg (Ne.symm hc), ih hr]
  have hexpand := expand_doubled lookup depth s
  rwa [hdoubled] at hexpand

/-- A reference is replaced by the value of its option, whose references are replaced first. -/
theorem expand_reference {lookup : List Char → Option (List Char)} {depth : Nat}
    {s name rest value read : List Char} (hname : reference? s = some (name, rest))
    (hvalue : lookup name = some value) (hread : expand lookup depth value = some read) :
    expand lookup (depth + 1) ('%' :: '(' :: s) =
      (expand lookup (depth + 1) rest).map (read ++ ·) := by
  rw [expand]
  split
  · next hnone =>
    rw [hname] at hnone
    cases hnone
  · next hsome =>
    rw [hname] at hsome
    cases hsome
    simp only [hvalue, hread]
    cases expand lookup (depth + 1) rest <;> rfl

theorem get?_of_plain {o : Options} {name value : String} (hraw : o.raw? name = some value)
    (hplain : '%' ∉ value.toList) : o.get? name = some (some value) := by
  simp only [Options.get?, hraw, expand_plain _ _ hplain, Option.map_some, String.ofList_toList]

/-- The directory of the revisions stands beside the configuration that refers to it. -/
theorem get?_script {o : Options} {directory : String} (hplain : '%' ∉ directory.toList)
    (hhere : o.raw? "here" = some directory)
    (hscript : o.raw? scriptOption = some "%(here)s/alembic") :
    o.get? scriptOption = some (some (directory ++ "/alembic")) := by
  let lookup := fun name : List Char =>
    (o.raw? (String.ofList (name.map Char.toLower))).map String.toList
  have hvalue : lookup "here".toList = some directory.toList := congrArg (·.map String.toList) hhere
  have hexpand : expand lookup maxDepth "%(here)s/alembic".toList =
      some (directory ++ "/alembic").toList := by
    calc expand lookup maxDepth "%(here)s/alembic".toList
        = (expand lookup maxDepth "/alembic".toList).map (directory.toList ++ ·) :=
          expand_reference rfl hvalue (expand_plain lookup 8 hplain)
      _ = some (directory.toList ++ "/alembic".toList) := by
          rw [expand_plain lookup maxDepth (by decide), Option.map_some]
      _ = some (directory ++ "/alembic").toList := by rw [String.toList_append]
  unfold Options.get?
  rw [hscript]
  show (expand lookup maxDepth "%(here)s/alembic".toList).map _ = _
  rw [hexpand, Option.map_some, String.ofList_toList]

/-- All options can be read if each can. -/
theorem isSome_readAll? {o : Options} (h : ∀ p ∈ o, (o.get? p.1).isSome = true) :
    o.readAll?.isSome = true := by
  have hmap (l : List (String × String)) (hl : ∀ p ∈ l, (o.get? p.1).isSome = true) :
      (l.mapM fun p => (o.get? p.1).map fun value => (p.1, value.getD p.2)).isSome = true := by
    induction l with
    | nil => rfl
    | cons p l ih =>
      obtain ⟨value, hvalue⟩ := Option.isSome_iff_exists.1 (hl p List.mem_cons_self)
      obtain ⟨read, hread⟩ := Option.isSome_iff_exists.1
        (ih fun q hq => hl q (List.mem_cons_of_mem p hq))
      rw [List.mapM_cons, hvalue, hread]
      rfl
  exact hmap o h

/-- **The configuration that comes with the service can always be read**, whatever address is put
in, if no percent sign stands in the path of its directory. -/
theorem readable_standard {directory : String} (h : '%' ∉ directory.toList) (url : String) :
    Readable (addressed (standardOptions directory) url) := by
  have hhere : (addressed (standardOptions directory) url).raw? "here" = some directory :=
    raw?_addressed _ url (by decide)
  have hscript := get?_script h hhere (raw?_addressed _ url (by decide))
  have hpath : (addressed (standardOptions directory) url).raw? "prepend_sys_path" = some "." :=
    raw?_addressed _ url (by decide)
  constructor
  · unfold checkRevisions
    rw [hscript]
  · refine isSome_readAll? fun p hp => ?_
    have hread : (addressed (standardOptions directory) url).get? p.1 ≠ none := by
      simp only [addressed, standardOptions, List.cons_append, List.nil_append, List.mem_cons,
        List.not_mem_nil, or_false] at hp
      rcases hp with rfl | rfl | rfl | rfl | rfl
      · rw [get?_of_plain hhere h]
        nofun
      · rw [hscript]
        nofun
      · rw [get?_of_plain hpath (by decide)]
        nofun
      · rw [get?_addressed]
        nofun
      · rw [get?_addressed]
        nofun
    exact Option.isSome_iff_ne_none.2 hread

/-! ## Migrating and writing scripts -/

open Discography.Daemon Discography.Settings

variable {o : Options} {url : String}

/-- What a script for an address comes to in the process. -/
def scriptOutcome (url : String) : Except Trouble (List String) :=
  match scriptFor url with
  | .ok statements => .ok statements
  | .error f => .error (.failure f)

theorem migrate_of_readable {w : Workspace} {config : String} (h : url ≠ "")
    (change : DataFile → Except Failure DataFile)
    (hread : Readable (addressed (w.optionsOf config) url)) :
    w.migrate url config change = w.changeAt url change := by
  unfold Workspace.migrate
  rw [withAddress_eq]
  simp only [onlineAddress_addressed h hread]

theorem migrate_of_not_readable {w : Workspace} {config : String}
    (change : DataFile → Except Failure DataFile)
    (hread : ¬ Readable (addressed (w.optionsOf config) url)) :
    ∃ f, w.migrate url config change = ⟨.error f, w⟩ := by
  obtain ⟨f, hf⟩ := onlineAddress_of_not_readable (.ok url) hread
  refine ⟨f, ?_⟩
  unfold Workspace.migrate
  rw [withAddress_eq]
  simp only [hf]

theorem script_addressed {p : State} {s : Sources} {config : String} (h : url ≠ "")
    (hoptions : p.workspace.optionsOf config = addressed o url)
    (hrevisions : checkRevisions (addressed o url) = .ok ()) :
    p.script s config = (scriptOutcome url, p) := by
  have hheld : p.workspace.addressIn config = .ok (some url) := by
    unfold Workspace.addressIn addressOf
    rw [hoptions, hrevisions, heldAddress_addressed h]
    rfl
  unfold State.script
  rw [hheld]
  rfl

/-- **An address survives the configuration file.** An address that is not empty, wherever percent
signs stand in it, can be put into any options; no other option changes, and the address that a
migration takes out again is exactly that one, online and offline, whatever the settings say or
complain about. So an online migration changes the database of that address, and offline the script
is the one for that address, without the settings being asked. Only what else stands in the
configuration can keep a migration from it, and it then touches nothing; the configuration that
comes with the service does not. -/
theorem address_kept (o : Options) (url : String) (h : url ≠ "") :
    withAddress o url = some (addressed o url) ∧
    (∀ name, name ≠ addressOption → (addressed o url).raw? name = o.raw? name) ∧
    (∀ settings, databaseAddress (addressed o url) settings = .ok url) ∧
    (∀ settings, Readable (addressed o url) → onlineAddress (addressed o url) settings = .ok url) ∧
    (∀ (w : Workspace) (config : String) (change : DataFile → Except Failure DataFile),
      w.optionsOf config = o →
        (Readable (addressed o url) → w.migrate url config change = w.changeAt url change) ∧
        (¬ Readable (addressed o url) → ∃ f, w.migrate url config change = ⟨.error f, w⟩)) ∧
    (∀ (p : State) (s : Sources) (config : String),
      p.workspace.optionsOf config = addressed o url →
        checkRevisions (addressed o url) = .ok () → p.script s config = (scriptOutcome url, p)) ∧
    ∀ directory : String, '%' ∉ directory.toList →
      Readable (addressed (standardOptions directory) url) := by
  refine ⟨withAddress_eq o url, fun name => raw?_addressed o url, fun settings => ?_,
    fun settings => onlineAddress_addressed h, ?online, fun p s config => script_addressed h,
    fun directory hplain => readable_standard hplain url⟩
  · exact databaseAddress_addressed h
  case online =>
    rintro w config change rfl
    exact ⟨migrate_of_readable h change, migrate_of_not_readable change⟩

/-- A password with percent signs alone, doubled, before what looks like a reference, and at the end
of a word, in the configuration that comes with the service and under settings that fail. -/
theorem address_kept_percent :
    let url := "postgresql+asyncpg://u:p%40%%(here)s%@h/d"
    let o := standardOptions "/srv"
    let w : Workspace := { directory := "/srv", configurations := [("alembic.ini", o)] }
    let p : State :=
      { workspace := { w with configurations := [("alembic.ini", addressed o url)] } }
    url ≠ "" ∧ w.optionsOf "alembic.ini" = o ∧ '%' ∉ "/srv".toList ∧
      onlineAddress (addressed o url) (.error optionUnreadable) = .ok url ∧
      w.upgrade url "alembic.ini" = w.changeAt url DataFile.upgrade ∧
      p.script ⟨[], [], []⟩ "alembic.ini" = (scriptOutcome url, p) := by
  intro url o w p
  have hurl : url ≠ "" := by decide
  have hplain : '%' ∉ "/srv".toList := by decide
  have hoptions : w.optionsOf "alembic.ini" = o := by decide +kernel
  have hheld : p.workspace.optionsOf "alembic.ini" = addressed o url := by decide +kernel
  obtain ⟨-, -, -, honline, hmigrate, hscript, hstandard⟩ := address_kept o url hurl
  have hread : Readable (addressed o url) := hstandard "/srv" hplain
  exact ⟨hurl, hoptions, hplain, honline _ hread, (hmigrate w _ _ hoptions).1 hread,
    hscript p _ _ hheld hread.revisions⟩

end Discography.Migration
