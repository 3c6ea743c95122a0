import Discography.Proofs.Lexemes
import Discography.Proofs.SettingSources

/-!
# The values of settings

Each setting takes its value from the first place that gives it, or else its default; the address of
the database has no default, and its driver is put in. What is said about one setting makes no
difference to the others, unless a value in the file of variables refers to it.

* `integerOfText_of_numeral` — an integer of JSON is read as itself.
* `DriverAdded` — an address and the address that it becomes.
* `Setup.Takes` — the value that a setting takes; `Setup.resolve_eq_ok_iff` — settings are made
  exactly of such values.
* `Setup.resolve_of_no_address` — without an address there are no settings.
* `settings_from_first_place` — all of it together, and that an address stays as it is when it is
  given again.
* `reference_reaches_other_setting` — a value that refers to the variable of another setting.
-/

set_option autoImplicit false

namespace Discography.Settings

open Discography.Json

/-! ## Integers -/

/-- A text is taken as it stands exactly if it is an integer of JSON. -/
theorem plainInteger_eq_ok_iff {s : List Char} {n : Int} :
    plainInteger s = .ok n ↔ Numeral usualLimits s (.integer n) := by
  unfold plainInteger
  constructor
  · intro h
    split at h
    · next m hm =>
      cases h
      obtain ⟨t, ht, rfl⟩ := numeral_of_number? hm
      rwa [List.append_nil]
    · cases h
  · intro h
    have hread := number?_append h (r := []) (by simp [Stops])
    rw [List.append_nil] at hread
    rw [hread]

theorem integerOfText_of_numeral {s : String} {n : Int}
    (h : Numeral usualLimits s.toList (.integer n)) : integerOfText s = .ok n := by
  unfold integerOfText
  rw [plainInteger_eq_ok_iff.2 h]

/-! ## Addresses -/

/-- The scheme of an address leaves the driver open. -/
def LeavesDriverOpen (url : String) : Prop :=
  "postgres://".toList <+: url.toList ∨ "postgresql://".toList <+: url.toList

/-- An address, and the address with a driver that it becomes. -/
inductive DriverAdded : String → String → Prop
  | postgres (rest : String) : DriverAdded ("postgres://" ++ rest) ("postgresql+asyncpg://" ++ rest)
  | postgresql (rest : String) :
      DriverAdded ("postgresql://" ++ rest) ("postgresql+asyncpg://" ++ rest)
  | other {url : String} (named : ¬ LeavesDriverOpen url) : DriverAdded url url

theorem withDriver_postgres (rest : String) :
    withDriver ("postgres://" ++ rest) = "postgresql+asyncpg://" ++ rest := by
  simp [withDriver, plainRest?, driverScheme]

theorem withDriver_postgresql (rest : String) :
    withDriver ("postgresql://" ++ rest) = "postgresql+asyncpg://" ++ rest := by
  simp [withDriver, plainRest?, driverScheme]

theorem withDriver_of_named {url : String} (h : ¬ LeavesDriverOpen url) : withDriver url = url := by
  obtain ⟨hshort, hlong⟩ := not_or.1 h
  have hnone : plainRest? url = none := by
    unfold plainRest?
    rw [List.findSome?_eq_none_iff]
    intro scheme hscheme
    simp only [List.mem_cons, List.not_mem_nil, or_false] at hscheme
    rcases hscheme with rfl | rfl
    · exact if_neg (mt List.isPrefixOf_iff_prefix.1 hshort)
    · exact if_neg (mt List.isPrefixOf_iff_prefix.1 hlong)
  unfold withDriver
  rw [hnone]

theorem withDriver_eq_iff {url t : String} : withDriver url = t ↔ DriverAdded url t := by
  constructor
  · rintro rfl
    by_cases h : LeavesDriverOpen url
    · have hsplit {scheme : String} {rest : List Char}
          (hrest : scheme.toList ++ rest = url.toList) : url = scheme ++ String.ofList rest := by
        rw [← String.toList_inj, String.toList_append, String.toList_ofList, hrest]
      rcases h with ⟨rest, hrest⟩ | ⟨rest, hrest⟩
      · rw [hsplit hrest, withDriver_postgres]
        exact .postgres _
      · rw [hsplit hrest, withDriver_postgresql]
        exact .postgresql _
    · rw [withDriver_of_named h]
      exact .other h
  · intro h
    cases h with
    | postgres rest => exact withDriver_postgres rest
    | postgresql rest => exact withDriver_postgresql rest
    | other named => exact withDriver_of_named named

/-- An address with its driver in it names one. -/
theorem DriverAdded.named {url t : String} (h : DriverAdded url t) : ¬ LeavesDriverOpen t := by
  have hadded (rest : String) : ¬ LeavesDriverOpen ("postgresql+asyncpg://" ++ rest) := by
    simp [LeavesDriverOpen]
  cases h with
  | postgres rest => exact hadded rest
  | postgresql rest => exact hadded rest
  | other named => exact named

/-! ## Settings one by one -/

/-- The settings one by one. -/
inductive Field where
  | serverHost
  | serverPort
  | shutdownTimeout
  | databaseUrl
  | poolSize
  | maxOverflow
  | migrate
  | migrationConfig
  | logLevel
  | logFormat
  deriving DecidableEq, Repr

/-- What a setting is. -/
inductive Kind where
  | text
  | integer
  | switch
  | address
  deriving DecidableEq, Repr

/-- What is given for a setting of a kind, and the value that it stands for. -/
inductive Kind.Means : Kind → Value → Value → Prop
  | text (s : String) : Means .text (.text s) (.text s)
  | integer {v : Value} {n : Int} (reads : readInteger v = .ok n) : Means .integer v (.integer n)
  | switch {v : Value} {b : Bool} (reads : readSwitch v = .ok b) : Means .switch v (.bool b)
  | address {s t : String} (added : DriverAdded s t) : Means .address (.text s) (.text t)

namespace Field

/-- The names of a setting. -/
def names : Field → List String
  | serverHost => ["server_host"]
  | serverPort => ["server_port"]
  | shutdownTimeout => ["shutdown_timeout_seconds"]
  | databaseUrl => ["dsn", "database_url"]
  | poolSize => ["database_pool_size"]
  | maxOverflow => ["database_max_overflow"]
  | migrate => ["migrate_db"]
  | migrationConfig => ["alembic_config"]
  | logLevel => ["log_level"]
  | logFormat => ["log_format"]

/-- What a setting is. -/
def kind : Field → Kind
  | serverHost | migrationConfig | logLevel | logFormat => .text
  | serverPort | shutdownTimeout | poolSize | maxOverflow => .integer
  | migrate => .switch
  | databaseUrl => .address

/-- The default of a setting, if it has one. -/
def default? : Field → Option Value
  | serverHost => some (.text "0.0.0.0")
  | serverPort => some (.integer 8080)
  | shutdownTimeout => some (.integer 10)
  | databaseUrl => none
  | poolSize => some (.integer 20)
  | maxOverflow => some (.integer 10)
  | migrate => some (.bool false)
  | migrationConfig => some (.text "alembic.ini")
  | logLevel => some (.text "INFO")
  | logFormat => some (.text "json")

/-- The value of a setting. -/
def value (a : Settings) : Field → Value
  | serverHost => .text a.serverHost
  | serverPort => .integer a.serverPort
  | shutdownTimeout => .integer a.shutdownTimeout
  | databaseUrl => .text a.databaseUrl
  | poolSize => .integer a.poolSize
  | maxOverflow => .integer a.maxOverflow
  | migrate => .bool a.migrate
  | migrationConfig => .text a.migrationConfig
  | logLevel => .text a.logLevel
  | logFormat => .text a.logFormat

end Field

theorem Kind.Means.unique {k : Kind} {v x y : Value} (hx : k.Means v x) (hy : k.Means v y) :
    x = y := by
  cases hx with
  | text s =>
    cases hy with
    | text => rfl
  | integer reads =>
    cases hy with
    | integer reads' =>
      cases reads.symm.trans reads'
      rfl
  | switch reads =>
    cases hy with
    | switch reads' =>
      cases reads.symm.trans reads'
      rfl
  | address added =>
    cases hy with
    | address added' => rw [← withDriver_eq_iff.2 added, ← withDriver_eq_iff.2 added']

theorem readText_eq_ok_iff {v : Value} {t : String} :
    readText v = .ok t ↔ Kind.text.Means v (.text t) := by
  constructor
  · intro h
    unfold readText at h
    split at h
    · cases h
      exact .text t
    · cases h
  · rintro ⟨⟩
    rfl

theorem readInteger_eq_ok_iff {v : Value} {n : Int} :
    readInteger v = .ok n ↔ Kind.integer.Means v (.integer n) := by
  constructor
  · exact .integer
  · intro h
    cases h with
    | integer reads => exact reads

theorem readSwitch_eq_ok_iff {v : Value} {b : Bool} :
    readSwitch v = .ok b ↔ Kind.switch.Means v (.bool b) := by
  constructor
  · exact .switch
  · intro h
    cases h with
    | switch reads => exact reads

/-- Settings are what their fields are read as, if there are no other names. -/
theorem resolve_eq_ok {s : Sources} {a : Settings} :
    resolve s = .ok a ↔
      (field s.inOrder "server_host" readText "0.0.0.0" = .ok a.serverHost ∧
        field s.inOrder "server_port" readInteger 8080 = .ok a.serverPort ∧
        field s.inOrder "shutdown_timeout_seconds" readInteger 10 = .ok a.shutdownTimeout ∧
        databaseField s.inOrder = .ok a.databaseUrl ∧
        field s.inOrder "database_pool_size" readInteger 20 = .ok a.poolSize ∧
        field s.inOrder "database_max_overflow" readInteger 10 = .ok a.maxOverflow ∧
        field s.inOrder "migrate_db" readSwitch false = .ok a.migrate ∧
        field s.inOrder "alembic_config" readText "alembic.ini" = .ok a.migrationConfig ∧
        field s.inOrder "log_level" readText "INFO" = .ok a.logLevel ∧
        field s.inOrder "log_format" readText "json" = .ok a.logFormat) ∧
      strangers s = [] := by
  constructor
  · intro h
    unfold resolve at h
    dsimp only at h
    split at h
    · next hhost hport htimeout hurl hsize hoverflow hmigrate hconfig hlevel hformat hnone =>
      cases h
      refine ⟨⟨hhost, hport, htimeout, hurl, hsize, hoverflow, hmigrate, hconfig, hlevel,
        hformat⟩, ?_⟩
      exact List.map_eq_nil_iff.1 (List.append_eq_nil_iff.1 hnone).2
    · cases h
  · rintro ⟨⟨hhost, hport, htimeout, hurl, hsize, hoverflow, hmigrate, hconfig, hlevel, hformat⟩,
      hnone⟩
    unfold resolve
    simp only [hhost, hport, htimeout, hurl, hsize, hoverflow, hmigrate, hconfig, hlevel, hformat,
      hnone, complaint, List.map_nil, List.append_nil]

namespace Setup

/-- The value that a setting takes: what the first place gives that gives it, or else its
default. -/
inductive Takes (s : Setup) (f : Field) : Value → Prop
  | given {name : String} {v x : Value} (decides : s.Decides f.names (some (name, v)))
      (means : f.kind.Means v x) : Takes s f x
  | default {x : Value} (absent : s.Decides f.names none) (default : f.default? = some x) :
      Takes s f x

variable {s s' : Setup} {f : Field}

theorem Decides.unique {names : List String} {x y : Option (String × Value)}
    (hx : s.Decides names x) (hy : s.Decides names y) : x = y := by
  rw [← decides_iff.2 hx, decides_iff.2 hy]

theorem takes_iff_of_given {name : String} {v x : Value}
    (h : s.Decides f.names (some (name, v))) : s.Takes f x ↔ f.kind.Means v x := by
  constructor
  · intro htakes
    cases htakes with
    | given decides means =>
      cases h.unique decides
      exact means
    | default absent _ => cases h.unique absent
  · exact .given h

theorem takes_iff_of_absent {x : Value} (h : s.Decides f.names none) :
    s.Takes f x ↔ f.default? = some x := by
  constructor
  · intro htakes
    cases htakes with
    | given decides _ => cases h.unique decides
    | default _ default => exact default
  · exact .default h

/-- A setting takes one value only. -/
theorem Takes.unique {x y : Value} (hx : s.Takes f x) (hy : s.Takes f y) : x = y := by
  cases hx with
  | given decides means => exact means.unique ((takes_iff_of_given decides).1 hy)
  | default absent default =>
    exact Option.some.inj (default.symm.trans ((takes_iff_of_absent absent).1 hy))

theorem Takes.congr {names : List String} {x : Value} (h : AlikeBeside names s s')
    (hfile : Unmentioned names s) (hf : ∀ name ∈ f.names, beside names name = true)
    (hx : s.Takes f x) : s'.Takes f x := by
  cases hx with
  | given decides means => exact .given (decides.congr h hfile hf) means
  | default absent default => exact .default (absent.congr h hfile hf) default

/-! ## Reading all settings -/

/-- A setting with a default is read as the value that it takes. -/
theorem field_eq_ok_iff {α : Type} {name : String} {read : Value → Reading α} {d y : α}
    {shown : α → Value} (hnames : f.names = [name]) (hdefault : f.default? = some (shown d))
    (hshown : Function.Injective shown)
    (hmeans : ∀ v y, read v = .ok y ↔ f.kind.Means v (shown y)) :
    field s.sources.inOrder name read d = .ok y ↔ s.Takes f (shown y) := by
  unfold field
  cases hlookup : lookup? [name] s.sources.inOrder with
  | none =>
    rw [takes_iff_of_absent (decides_iff.1 (hnames ▸ hlookup)), hdefault, Option.some.injEq,
      hshown.eq_iff, Except.ok.injEq]
  | some found =>
    obtain ⟨name', v⟩ := found
    rw [takes_iff_of_given (decides_iff.1 (hnames ▸ hlookup)), ← hmeans]
    dsimp only
    cases read v with
    | ok y' => rw [Except.ok.injEq, Except.ok.injEq]
    | error p =>
      constructor
      · nofun
      · nofun

section Kinds

variable {name : String}

theorem text_eq_ok_iff {d y : String} (hnames : f.names = [name])
    (hdefault : f.default? = some (.text d)) (hkind : f.kind = .text) :
    field s.sources.inOrder name readText d = .ok y ↔ s.Takes f (.text y) :=
  field_eq_ok_iff hnames hdefault (fun _ _ => Value.text.inj) fun _ _ =>
    hkind ▸ readText_eq_ok_iff

theorem integer_eq_ok_iff {d y : Int} (hnames : f.names = [name])
    (hdefault : f.default? = some (.integer d)) (hkind : f.kind = .integer) :
    field s.sources.inOrder name readInteger d = .ok y ↔ s.Takes f (.integer y) :=
  field_eq_ok_iff hnames hdefault (fun _ _ => Value.integer.inj) fun _ _ =>
    hkind ▸ readInteger_eq_ok_iff

theorem switch_eq_ok_iff {d y : Bool} (hnames : f.names = [name])
    (hdefault : f.default? = some (.bool d)) (hkind : f.kind = .switch) :
    field s.sources.inOrder name readSwitch d = .ok y ↔ s.Takes f (.bool y) :=
  field_eq_ok_iff hnames hdefault (fun _ _ => Value.bool.inj) fun _ _ =>
    hkind ▸ readSwitch_eq_ok_iff

end Kinds

/-- The address of the database is read as the value that it takes. -/
theorem databaseField_eq_ok_iff {t : String} :
    databaseField s.sources.inOrder = .ok t ↔ s.Takes .databaseUrl (.text t) := by
  unfold databaseField
  cases hlookup : lookup? databaseNames s.sources.inOrder with
  | none =>
    rw [takes_iff_of_absent (f := .databaseUrl) (decides_iff.1 hlookup)]
    constructor
    · nofun
    · nofun
  | some found =>
    obtain ⟨name, v⟩ := found
    rw [takes_iff_of_given (f := .databaseUrl) (decides_iff.1 hlookup)]
    constructor
    · intro h
      cases v with
      | text url =>
        cases h
        exact .address (withDriver_eq_iff.1 rfl)
      | _ => cases h
    · rintro ⟨⟩
      next added => exact congrArg Except.ok (withDriver_eq_iff.2 added)

/-- **Settings are made exactly of the values that the settings take**, if there are no other
names. -/
theorem resolve_eq_ok_iff {a : Settings} :
    resolve s.sources = .ok a ↔
      (∀ f : Field, s.Takes f (f.value a)) ∧ strangers s.sources = [] := by
  rw [resolve_eq_ok, text_eq_ok_iff (f := .serverHost) rfl rfl rfl,
    integer_eq_ok_iff (f := .serverPort) rfl rfl rfl,
    integer_eq_ok_iff (f := .shutdownTimeout) rfl rfl rfl, databaseField_eq_ok_iff,
    integer_eq_ok_iff (f := .poolSize) rfl rfl rfl,
    integer_eq_ok_iff (f := .maxOverflow) rfl rfl rfl,
    switch_eq_ok_iff (f := .migrate) rfl rfl rfl,
    text_eq_ok_iff (f := .migrationConfig) rfl rfl rfl,
    text_eq_ok_iff (f := .logLevel) rfl rfl rfl, text_eq_ok_iff (f := .logFormat) rfl rfl rfl]
  refine and_congr_left' ⟨?_, fun h => ?_⟩
  · rintro ⟨hhost, hport, htimeout, hurl, hsize, hoverflow, hmigrate, hconfig, hlevel, hformat⟩ f
    cases f <;> assumption
  · exact ⟨h .serverHost, h .serverPort, h .shutdownTimeout, h .databaseUrl, h .poolSize,
      h .maxOverflow, h .migrate, h .migrationConfig, h .logLevel, h .logFormat⟩

/-- **Without an address there are no settings**, and one complaint is that it is missing. -/
theorem resolve_of_no_address (h : s.Decides databaseNames none) :
    ∃ complaints, resolve s.sources = .error complaints ∧ ⟨"dsn", .missing⟩ ∈ complaints := by
  have hurl : databaseField s.sources.inOrder = .error ⟨"dsn", .missing⟩ := by
    unfold databaseField
    rw [decides_iff.2 h]
  cases hresolve : resolve s.sources with
  | ok a =>
    have hread := (resolve_eq_ok.1 hresolve).1.2.2.2.1
    cases hurl.symm.trans hread
  | error complaints =>
    refine ⟨complaints, rfl, ?_⟩
    unfold resolve at hresolve
    dsimp only at hresolve
    split at hresolve
    · cases hresolve
    · cases hresolve
      rw [hurl]
      simp [complaint]

/-- What is said under the names of one setting makes no difference to another one, as long as the
file does not refer to it. -/
theorem value_congr {g : Field} {a a' : Settings} (hne : f ≠ g) (h : AlikeBeside g.names s s')
    (hfile : Unmentioned g.names s) (ha : resolve s.sources = .ok a)
    (ha' : resolve s'.sources = .ok a') : f.value a' = f.value a := by
  have hnames : ∀ name ∈ f.names, beside g.names name = true := by
    revert hne
    cases f <;> cases g <;> decide
  exact ((resolve_eq_ok_iff.1 ha').1 f).unique (((resolve_eq_ok_iff.1 ha).1 f).congr h hfile hnames)

/-- The address that comes out names a driver. -/
theorem databaseUrl_named {a : Settings} (ha : resolve s.sources = .ok a) :
    ¬ LeavesDriverOpen a.databaseUrl := by
  have htakes : s.Takes .databaseUrl (.text a.databaseUrl) :=
    (resolve_eq_ok_iff.1 ha).1 .databaseUrl
  cases htakes with
  | given _ means =>
    cases means with
    | address added => exact added.named
  | default _ default => cases default

/-- An address that names a driver comes out as it is. -/
theorem databaseUrl_of_given {a : Settings} {name url : String} (hnamed : ¬ LeavesDriverOpen url)
    (hgiven : s.Decides databaseNames (some (name, .text url))) (ha : resolve s.sources = .ok a) :
    a.databaseUrl = url := by
  have htakes : s.Takes .databaseUrl (.text a.databaseUrl) :=
    (resolve_eq_ok_iff.1 ha).1 .databaseUrl
  cases (takes_iff_of_given (f := .databaseUrl) hgiven).1 htakes with
  | address added => rw [← withDriver_eq_iff.2 added, withDriver_of_named hnamed]

end Setup

/-- The settings with an address and all defaults. -/
def defaults (url : String) : Settings :=
  ⟨"0.0.0.0", 8080, 10, url, 20, 10, false, "alembic.ini", "INFO", "json"⟩

/-- An address is all that has to be given. -/
theorem resolve_address {name : String} (h : name ∈ databaseNames) (url : String) :
    resolve (Setup.sources { arguments := [(name, .text url)] }) =
      .ok (defaults (withDriver url)) := by
  have hsources : (Setup.sources { arguments := [(name, .text url)] }) =
      ⟨[(name, .text url)], [], []⟩ := rfl
  rw [hsources, resolve_eq_ok]
  simp only [databaseNames, List.mem_cons, List.not_mem_nil, or_false] at h
  rcases h with rfl | rfl
  · exact ⟨⟨rfl, rfl, rfl, rfl, rfl, rfl, rfl, rfl, rfl, rfl⟩, rfl⟩
  · exact ⟨⟨rfl, rfl, rfl, rfl, rfl, rfl, rfl, rfl, rfl, rfl⟩, rfl⟩

/-- **Settings come from the first place that gives them.** Settings are made exactly of the values
that the settings take, each from the first place that gives it under any of its names, within one
place under the first of them, or else its default; nothing else is asked but that no other names
are given. Without an address there are no settings. The address that comes out never leaves its
driver open, and comes out as it is when it is given again, in whatever place and under whichever
name; to give it is enough. And what is said under the names of one setting makes no difference to
another one, as long as no value of the file under another name refers to such a name. -/
theorem settings_from_first_place (s : Setup) :
    (∀ a, resolve s.sources = .ok a ↔
      (∀ f : Field, s.Takes f (f.value a)) ∧ strangers s.sources = []) ∧
    (s.Decides databaseNames none →
      ∃ complaints, resolve s.sources = .error complaints ∧ ⟨"dsn", .missing⟩ ∈ complaints) ∧
    (∀ a, resolve s.sources = .ok a → ¬ LeavesDriverOpen a.databaseUrl ∧
      (∀ (s' : Setup) (name : String) (a' : Settings), resolve s'.sources = .ok a' →
        s'.Decides databaseNames (some (name, .text a.databaseUrl)) →
          a'.databaseUrl = a.databaseUrl) ∧
      ∀ name ∈ databaseNames,
        resolve (Setup.sources { arguments := [(name, .text a.databaseUrl)] }) =
          .ok (defaults a.databaseUrl)) ∧
    ∀ (s' : Setup) (f g : Field) (a a' : Settings), f ≠ g → s.AlikeBeside g.names s' →
      s.Unmentioned g.names → resolve s.sources = .ok a → resolve s'.sources = .ok a' →
        f.value a' = f.value a := by
  refine ⟨fun a => Setup.resolve_eq_ok_iff, Setup.resolve_of_no_address, fun a ha => ?_,
    fun s' f g a a' hne halike hfile ha ha' => Setup.value_congr hne halike hfile ha ha'⟩
  have hnamed := Setup.databaseUrl_named ha
  refine ⟨hnamed, fun s' name a' ha' hgiven => Setup.databaseUrl_of_given hnamed hgiven ha', ?_⟩
  intro name hname
  rw [resolve_address hname, withDriver_of_named hnamed]

/-- An address under its second name in the environment, before one under its first name in the
file, an empty host before another one, and a level that is added. -/
theorem settings_from_first_place_two_names :
    let s : Setup :=
      { environment := [("Database_Url", "postgres://u@h/d"), ("SERVER_HOST", "")]
        file := "DSN=sqlite://\nSERVER_HOST=other\nserver_port=9090" }
    let s' : Setup := { s with environment := ("LOG_LEVEL", "DEBUG") :: s.environment }
    let a : Settings :=
      { defaults "postgresql+asyncpg://u@h/d" with serverHost := "", serverPort := 9090 }
    resolve s.sources = .ok a ∧ (∀ f : Field, s.Takes f (f.value a)) ∧
      ¬ LeavesDriverOpen a.databaseUrl ∧
      resolve s'.sources = .ok { a with logLevel := "DEBUG" } ∧
      ∀ (f : Field) (a' : Settings), f ≠ .logLevel → resolve s'.sources = .ok a' →
        f.value a' = f.value a := by
  intro s s' a
  obtain ⟨htakes, -, haddress, hothers⟩ := settings_from_first_place s
  have ha : resolve s.sources = .ok a := ok_of_toOption (by decide +kernel)
  have ha' : resolve s'.sources = .ok { a with logLevel := "DEBUG" } :=
    ok_of_toOption (by decide +kernel)
  have halike : s.AlikeBeside Field.logLevel.names s' := ⟨rfl, by decide +kernel, rfl⟩
  have hplain : ∀ b ∈ EnvFile.read s.file, ∀ t ∈ b.2, '$' ∉ t.toList := by decide +kernel
  have hfile : s.Unmentioned Field.logLevel.names := fun b hb t ht n hn =>
    absurd hn (EnvFile.not_refersTo (hplain b (List.mem_filter.1 hb).1 t ht))
  exact ⟨ha, ((htakes a).1 ha).1, (haddress a ha).1, ha',
    fun f a' hne hresolve => hothers s' f .logLevel a a' hne halike hfile ha hresolve⟩

/-- A host that refers to the address changes with it. -/
theorem reference_reaches_other_setting :
    let s (url : String) : Setup := { file := "DSN=" ++ url ++ "\nSERVER_HOST=$\x7bDSN\x7d" }
    (s "a").AlikeBeside Field.databaseUrl.names (s "b") ∧
      ∃ a b, resolve (s "a").sources = .ok a ∧ resolve (s "b").sources = .ok b ∧
        Field.serverHost.value a = .text "a" ∧ Field.serverHost.value b = .text "b" := by
  intro s
  refine ⟨⟨rfl, rfl, by decide +kernel⟩, { defaults "a" with serverHost := "a" },
    { defaults "b" with serverHost := "b" }, ok_of_toOption ?_, ok_of_toOption ?_, rfl, rfl⟩
  · decide +kernel
  · decide +kernel

end Discography.Settings
