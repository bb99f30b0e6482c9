import NoticeLedger.Settings.Basic

/-!
# NoticeLedger.Proofs.Settings.Readings

The variables of the database are read twice: for the settings, which keep an empty one as it is,
and for a connection, to which an empty one is absent.

* `Database.Part` — a part of how the database is reached, with its variable.
* `Database.Part.under_given_eq_iff` — both ways to read give a part the same value exactly if its
  variable is not empty.
* `Database.connection_members`, `connection_nil` — what a connection is opened with, with the parts
  of any database as options and without options.
* `Settings.ofEnvironment_eq_ok` — what settings consist of; `Settings.options_of_relational` —
  their options are the variables as they are.
* `Settings.connection_readings` — a connection with these options and one without them.
-/

namespace NoticeLedger

namespace Environment

variable {env : Environment} {name : String}

theorem filled?_of_empty (h : env.given? name = some "") : env.filled? name = none := by
  rw [given?] at h
  simp [filled?, h]

theorem filled?_of_not_empty (h : env.given? name ≠ some "") :
    env.filled? name = env.given? name := by
  rw [given?] at h ⊢
  rw [filled?]
  cases hname : env.lookup name with
  | none => rfl
  | some text =>
    have htext : text ≠ "" := fun he => h (by rw [hname, he])
    simp [htext]

end Environment

namespace Database

inductive Part where
  | host
  | portNumber
  | username
  | password
  | database
  deriving DecidableEq

namespace Part

def all : List Part :=
  [host, portNumber, username, password, database]

def name : Part → String
  | host => "host"
  | portNumber => "port"
  | username => "username"
  | password => "password"
  | database => "database"

def source : Part → String
  | host => "DB_HOST"
  | portNumber => "DB_PORT"
  | username => "DB_USERNAME"
  | password => "DB_PASSWORD"
  | database => "DB_NAME"

def standard : Part → String
  | host => "localhost"
  | portNumber => "5432"
  | _ => "reconciler"

def value : Part → String → Json
  | portNumber, text => .number (Number.readWhole text)
  | _, text => .text text

def under (p : Part) (get? : String → Option String) : Json :=
  p.value ((get? p.source).getD p.standard)

/-- The empty text means something else than the standard one: for a port, no number at all. -/
theorem value_empty_ne (p : Part) : p.value "" ≠ p.value p.standard := by
  cases p with
  | portNumber => decide +kernel
  | host | username | password | database => simp [value, standard]

/-- A part reads alike either way exactly if its variable is not empty. -/
theorem under_given_eq_iff {env : Environment} {p : Part} :
    p.under env.given? = p.under env.filled? ↔ env.given? p.source ≠ some "" := by
  constructor
  · -- The empty text stays as it is one way and gives way to the standard text the other.
    intro halike hempty
    rw [under, under, Environment.filled?_of_empty hempty, hempty] at halike
    exact p.value_empty_ne halike
  · intro hfull
    rw [under, under, Environment.filled?_of_not_empty hfull]

end Part

/-! ## Connections -/

variable (env : Environment)

/-- Options that name every part take the place of all that the environment says of them. -/
theorem connection_members (d : Database) :
    connection env d.members = ("type", .text kind) :: (d.members ++ extras env) :=
  rfl

theorem connection_nil : connection env [] = connection env (filled env).members :=
  rfl

theorem get?_connection_part (get? : String → Option String) (p : Part) :
    (connection env (ofLookup get?).members).get? p.name = some (p.under get?) := by
  cases p <;> rfl

theorem get?_members_append {d : Database} {rest : Members} {name : String}
    (h : ∀ p : Part, name ≠ p.name) : (d.members ++ rest).get? name = rest.get? name := by
  have hnames : d.members.map Prod.fst = Part.all.map Part.name := rfl
  have hnone : d.members.lookup name = none := by
    refine List.lookup_eq_none_iff.mpr fun member hmem => bne_iff_ne.mpr fun heq => ?_
    obtain ⟨p, -, hp⟩ := List.mem_map.mp (hnames ▸ List.mem_map_of_mem hmem)
    exact h p (heq.trans hp.symm)
  rw [Members.get?, List.lookup_append, hnone]
  rfl

/-- What is no part of a database is the same whatever the options say of its parts. -/
theorem get?_connection_other (d d' : Database) {name : String} (h : ∀ p : Part, name ≠ p.name) :
    (connection env d.members).get? name = (connection env d'.members).get? name := by
  rw [connection_members, connection_members, Members.get?_cons, Members.get?_cons,
    get?_members_append h, get?_members_append h]

end Database

namespace Settings

variable {env : Environment} {settings : Members} {name other kind member : String}

theorem choice_eq_ok (h : choice env name other = .ok kind) :
    kind = (env.given? name).getD "mock" := by
  rw [choice] at h
  split at h
  · exact (Except.ok.inj h).symm
  · exact nomatch h

def storagePart (env : Environment) (kind : String) : Members :=
  ("type", .text kind) ::
    if kind = "typeorm" then [("options", .object (Database.given env).members)] else []

/-- The settings that variables give, part by part. -/
theorem ofEnvironment_eq_ok (h : ofEnvironment env = .ok settings) :
    ∃ platform environment debug, settings =
      [ ("storage", .object (storagePart env ((env.given? "STORAGE_TYPE").getD "mock"))),
        ("platform", platform), ("environment", environment), ("debug", debug) ] := by
  obtain ⟨storage, hstorage, h⟩ := bind_eq_ok h
  obtain ⟨platform, -, h⟩ := bind_eq_ok h
  rw [← choice_eq_ok hstorage]
  dsimp only at h
  -- Where the platform is reached is read only if it is asked for. The store's part is the same.
  split at h
  · obtain ⟨http, -, h⟩ := bind_eq_ok h
    exact ⟨_, _, _, (Except.ok.inj h).symm⟩
  · exact ⟨_, _, _, (Except.ok.inj h).symm⟩

/-- Putting the defaults under settings leaves the part of the store alone. -/
theorem read_complete_storage (hnodup : (settings.map Prod.fst).Nodup) {storage : Json}
    (h : settings.get? "storage" = some storage) :
    read (complete settings) "storage" member = read settings "storage" member := by
  have hget : (complete settings).get? "storage" = settings.get? "storage" := by
    rw [complete, Members.get?_put, if_neg (by decide), Members.get?_put, if_neg (by decide),
      Members.get?_merge hnodup, h]
    rfl
  rw [read, read, hget]

/-- The options of the relational store are the variables as they are, before and after the defaults
are put under the settings. -/
theorem options_of_relational (h : ofEnvironment env = .ok settings)
    (hkind : env.given? "STORAGE_TYPE" = some "typeorm") :
    read settings "storage" "options" = .ok (some (.object (Database.given env).members)) ∧
      read (complete settings) "storage" "options" =
        .ok (some (.object (Database.given env).members)) := by
  obtain ⟨platform, environment, debug, rfl⟩ := ofEnvironment_eq_ok h
  rw [hkind]
  have hread (rest : Members) : read
      (("storage", .object (storagePart env ((some "typeorm").getD "mock"))) :: rest)
      "storage" "options" = .ok (some (.object (Database.given env).members)) := rfl
  refine ⟨hread _, ?_⟩
  rw [read_complete_storage (by simp) rfl]
  exact hread _

/-- A connection with options beside one without them. -/
structure Readings (env : Environment) (options : Members) : Prop where
  /-- With options, each part is its variable as it is. -/
  withOptions (p : Database.Part) :
    (Database.connection env options).get? p.name = some (p.under env.given?)
  /-- Without options, an empty variable counts as absent. -/
  alone (p : Database.Part) :
    (Database.connection env []).get? p.name = some (p.under env.filled?)
  /-- A part is the same exactly if its variable is not empty. -/
  same_iff (p : Database.Part) :
    (Database.connection env options).get? p.name = (Database.connection env []).get? p.name ↔
      env.given? p.source ≠ some ""
  /-- Nothing else differs. -/
  other (name : String) : (∀ p : Database.Part, name ≠ p.name) →
    (Database.connection env options).get? name = (Database.connection env []).get? name

/-- **Settings and connections read the variables of the database alike, but for empty ones.**
Whatever variables there are, if they choose the relational store and settings can be read from
them: the options in these settings, which stay as they are when the defaults are put under, open a
connection that has each part as without options exactly if its variable is not empty. -/
theorem connection_readings (h : ofEnvironment env = .ok settings)
    (hkind : env.given? "STORAGE_TYPE" = some "typeorm") :
    ∃ options, read settings "storage" "options" = .ok (some (.object options)) ∧
      read (complete settings) "storage" "options" = .ok (some (.object options)) ∧
      Readings env options := by
  obtain ⟨hread, hcomplete⟩ := options_of_relational h hkind
  have hgiven (p : Database.Part) :
      (Database.connection env (Database.given env).members).get? p.name =
        some (p.under env.given?) :=
    Database.get?_connection_part env env.given? p
  have hfilled (p : Database.Part) :
      (Database.connection env []).get? p.name = some (p.under env.filled?) := by
    rw [Database.connection_nil]
    exact Database.get?_connection_part env env.filled? p
  refine ⟨_, hread, hcomplete, hgiven, hfilled, fun p => ?_, fun name hother => ?_⟩
  · rw [hgiven, hfilled, Option.some.injEq, Database.Part.under_given_eq_iff]
  · rw [Database.connection_nil]
    exact Database.get?_connection_other env _ _ hother

end Settings

namespace Sample

def environment : Environment :=
  [ ("STORAGE_TYPE", "typeorm"), ("PLATFORM_TYPE", "http"), ("PLATFORM_BASE_URL", "http://billing"),
    ("PLATFORM_API_KEY", "key"), ("PLATFORM_API_SECRET", "secret"), ("NODE_ENV", "production"),
    ("DB_HOST", "  "), ("DB_PORT", " 6543/tcp"), ("DB_USERNAME", ""), ("DB_PASSWORD", "") ]

/-- Variables of which that of the port is empty. -/
def portless : Environment :=
  [("STORAGE_TYPE", "typeorm"), ("DB_PORT", "")]

end Sample

namespace Settings

/-- A host of blanks, a port with more behind it and an absent name are read alike, an empty user
and an empty password are not. -/
theorem connection_readings_sample : ∃ settings options,
    ofEnvironment Sample.environment = .ok settings ∧
    Sample.environment.given? "STORAGE_TYPE" = some "typeorm" ∧
    read (complete settings) "storage" "options" = .ok (some (.object options)) ∧
    (∀ p : Database.Part, (Database.connection Sample.environment options).get? p.name =
      (Database.connection Sample.environment []).get? p.name ↔
        p ≠ .username ∧ p ≠ .password) ∧
    Readings Sample.environment options := by
  obtain ⟨settings, hread⟩ : ∃ settings, ofEnvironment Sample.environment = .ok settings := ⟨_, rfl⟩
  obtain ⟨options, -, hcomplete, hreadings⟩ := connection_readings hread rfl
  refine ⟨settings, options, hread, rfl, hcomplete, fun p => ?_, hreadings⟩
  rw [hreadings.same_iff]
  cases p <;> decide

/-- An empty variable of the port makes settings whose port is no number, though a connection
without options takes the standard port. -/
theorem not_every_reading_alike : ∃ settings options,
    ofEnvironment Sample.portless = .ok settings ∧
    Sample.portless.given? "STORAGE_TYPE" = some "typeorm" ∧
    read settings "storage" "options" = .ok (some (.object options)) ∧
    (Database.connection Sample.portless options).get? "port" = some (.number .nan) ∧
    (Database.connection Sample.portless []).get? "port" = some (.number 5432) :=
  ⟨_, _, rfl, rfl, rfl, rfl, by decide +kernel⟩

end Settings

end NoticeLedger
