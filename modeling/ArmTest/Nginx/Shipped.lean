import ArmTest.Nginx.CoreModule
import ArmTest.Nginx.Frame
import ArmTest.Nginx.Parser

/-!
# The shipped file and its command tables

The rows that the directives of the shipped file are looked up in, the directives themselves, and
what the functions behind the rows do with them: those of the two worker directives keep their
fields, those of all others a state of their own.
-/

namespace Nginx.ConfFile

open Shell

/-! ## Command tables -/

/-- `NGX_ANY_CONF`. -/
def anyConf : List Context := [.main, .event, .httpMain, .httpSrv, .httpLoc, .httpLif, .httpLmt]

/-- `NGX_HTTP_MAIN_CONF|NGX_HTTP_SRV_CONF|NGX_HTTP_LOC_CONF`. -/
def httpConf : List Context := [.httpMain, .httpSrv, .httpLoc]

/-- `NGX_HTTP_MAIN_CONF|NGX_HTTP_SRV_CONF|NGX_HTTP_LOC_CONF|NGX_HTTP_LIF_CONF`. -/
def httpLifConf : List Context := [.httpMain, .httpSrv, .httpLoc, .httpLif]

/-- `NGX_HTTP_MAIN_CONF|NGX_HTTP_SRV_CONF`. -/
def httpSrvConf : List Context := [.httpMain, .httpSrv]

/-- `ngx_core_commands`. -/
def ngxCoreCommands : List Row :=
  [⟨"daemon", [.main], .flag, none⟩,
    ⟨"master_process", [.main], .flag, none⟩,
    ⟨"timer_resolution", [.main], .takes [1], none⟩,
    ⟨"pid", [.main], .takes [1], none⟩,
    ⟨"lock_file", [.main], .takes [1], none⟩,
    ⟨"worker_processes", [.main], .takes [1], none⟩,
    ⟨"debug_points", [.main], .takes [1], none⟩,
    ⟨"user", [.main], .takes [1, 2], none⟩,
    ⟨"worker_priority", [.main], .takes [1], none⟩,
    ⟨"worker_cpu_affinity", [.main], .oneMore, none⟩,
    ⟨"worker_rlimit_nofile", [.main], .takes [1], none⟩,
    ⟨"worker_rlimit_core", [.main], .takes [1], none⟩,
    ⟨"worker_shutdown_timeout", [.main], .takes [1], none⟩,
    ⟨"working_directory", [.main], .takes [1], none⟩,
    ⟨"env", [.main], .takes [1], none⟩,
    ⟨"load_module", [.main], .takes [1], none⟩]

/-- The rows of the other modules for the directives of the shipped file. -/
def otherCommands : List Row :=
  [⟨"error_log", [.main], .oneMore, none⟩,
    ⟨"include", anyConf, .takes [1], none⟩,
    ⟨"events", [.main], .takes [0], some (.directives .event)⟩,
    ⟨"worker_connections", [.event], .takes [1], none⟩,
    ⟨"use", [.event], .takes [1], none⟩,
    ⟨"accept_mutex", [.event], .flag, none⟩,
    ⟨"http", [.main], .takes [0], some (.directives .httpMain)⟩,
    ⟨"server", [.httpMain], .takes [0], some (.directives .httpSrv)⟩,
    ⟨"location", [.httpSrv, .httpLoc], .takes [1, 2], some (.directives .httpLoc)⟩,
    ⟨"listen", [.httpSrv], .oneMore, none⟩,
    ⟨"server_name", [.httpSrv], .oneMore, none⟩,
    ⟨"types_hash_max_size", httpConf, .takes [1], none⟩,
    ⟨"default_type", httpConf, .takes [1], none⟩,
    ⟨"root", httpLifConf, .takes [1], none⟩,
    ⟨"sendfile", httpLifConf, .flag, none⟩,
    ⟨"tcp_nopush", httpConf, .flag, none⟩,
    ⟨"tcp_nodelay", httpConf, .flag, none⟩,
    ⟨"keepalive_timeout", httpConf, .takes [1, 2], none⟩,
    ⟨"keepalive_requests", httpConf, .takes [1], none⟩,
    ⟨"error_page", httpLifConf, .twoMore, none⟩,
    ⟨"open_file_cache", httpConf, .takes [1, 2], none⟩,
    ⟨"open_file_cache_valid", httpConf, .takes [1], none⟩,
    ⟨"open_file_cache_min_uses", httpConf, .takes [1], none⟩,
    ⟨"access_log", [.httpMain, .httpSrv, .httpLoc, .httpLif, .httpLmt], .oneMore, none⟩,
    ⟨"gzip", httpLifConf, .flag, none⟩,
    ⟨"gzip_types", httpConf, .oneMore, none⟩,
    ⟨"index", httpConf, .oneMore, none⟩,
    ⟨"ssl_certificate", httpSrvConf, .takes [1], none⟩,
    ⟨"ssl_certificate_key", httpSrvConf, .takes [1], none⟩,
    ⟨"ssl_protocols", httpSrvConf, .oneMore, none⟩,
    ⟨"ssl_ciphers", httpSrvConf, .takes [1], none⟩,
    ⟨"ssl_prefer_server_ciphers", httpSrvConf, .flag, none⟩,
    ⟨"ssl_session_cache", httpSrvConf, .takes [1, 2], none⟩,
    ⟨"ssl_session_timeout", httpSrvConf, .takes [1], none⟩]

/-- The rows a look-up goes through. -/
def shippedRows : List Row := ngxCoreCommands ++ otherCommands

/-- The functions of all directives but the two worker directives, over the state they keep. -/
structure OtherModules (S : Type) where
  set : List Text → S → Except SetFailure S
  handler : Text → List Text → S → Except SetFailure S
  close : Text → S → Except SetFailure S

/-- A row with its functions: those of the worker directives work on their fields, the others on
the rest of the state. -/
def Row.command {S : Type} (ngxNcpu : Nat) (others : OtherModules S) (row : Row) :
    Command (CoreModule × S) where
  toRow := row
  set args state :=
    if row.name = "worker_processes" then
      (state.1.setWorkerProcesses ngxNcpu args).map (·, state.2)
    else if row.name = "worker_cpu_affinity" then
      (state.1.setCpuAffinity ngxNcpu args).map (·, state.2)
    else (others.set args state.2).map (state.1, ·)
  handler args state := (others.handler row.name args state.2).map (state.1, ·)
  close state := (others.close row.name state.2).map (state.1, ·)

/-- The command tables. -/
def shippedCommands {S : Type} (ngxNcpu : Nat) (others : OtherModules S) :
    List (Command (CoreModule × S)) := shippedRows.map (Row.command ngxNcpu others)

/-- The functions of the other modules are called for directives one after another. -/
def OtherModules.run {S : Type} (others : OtherModules S) : Directives → S → Except SetFailure S
  | .done, state => .ok state
  | .simple args rest, state => others.set args state >>= others.run rest
  | .block args body rest, state =>
      others.set args state >>= others.run body >>= others.close (args.headD []) >>=
        others.run rest

/-! ## The directives of the shipped file -/

/-- Simple directives one after another. -/
def Directives.simples (lines : List (List Text)) (others : Directives) : Directives :=
  lines.foldr .simple others

/-- `location / { … }`. -/
def locationRoot (others : Directives) : Directives :=
  .block ["location", "/"]
    (.simples [["root", "html"], ["index", "index.html", "index.htm"]] .done) others

/-- The body of `events`. -/
def eventsBody : Directives :=
  .simples [["use", "epoll"], ["accept_mutex", "off"], ["worker_connections", "10240"]] .done

/-- The body of `http` behind the compression switch. -/
def httpRest : Directives :=
  .simples
    [["gzip_types", "*"],
      ["open_file_cache", "max=10240000", "inactive=60s"],
      ["open_file_cache_valid", "80s"],
      ["open_file_cache_min_uses", "1"],
      ["keepalive_requests", "10000000000"],
      ["keepalive_timeout", "300s"],
      ["tcp_nopush", "on"],
      ["tcp_nodelay", "on"],
      ["types_hash_max_size", "4096"]]
    (.block ["server"]
      (.simples [["listen", "80"], ["server_name", "localhost"]]
        (locationRoot
          (.simples [["error_page", "500", "502", "503", "504", "/50x.html"]]
            (.block ["location", "=", "/50x.html"] (.simples [["root", "html"]] .done) .done))))
      (.block ["server"]
        (.simples
          [["listen", "443", "ssl"],
            ["server_name", "localhost"],
            ["ssl_certificate", "/usr/local/nginx/cert/hj.crt"],
            ["ssl_certificate_key", "/usr/local/nginx/cert/hj.key"],
            ["ssl_protocols", "TLSv1", "TLSv1.1", "TLSv1.2", "TLSv1.3"],
            ["ssl_session_cache", "shared:SSL:1m"],
            ["ssl_session_timeout", "5m"],
            ["ssl_ciphers", "HIGH:!aNULL:!MD5"],
            ["ssl_prefer_server_ciphers", "on"]]
          (locationRoot .done))
        .done))

/-- The body of `http`. -/
def httpBody (gzip : Text) : Directives :=
  .simples
    [["include", "mime.types"],
      ["default_type", "application/octet-stream"],
      ["access_log", "off"],
      ["sendfile", "on"],
      ["gzip", gzip]]
    httpRest

/-- The directives behind the worker directives. -/
def mainRest (gzip : Text) : Directives :=
  .simples
    [["worker_rlimit_nofile", "104857600"],
      ["error_log", "/var/log/error.log"],
      ["pid", "/run/nginx.pid"]]
    (.block ["events"] eventsBody (.block ["http"] (httpBody gzip) .done))

/-- The words of the worker count. -/
def workersWord : Workers → Text
  | .shipped => "1"
  | .count core => decimal core
  | .auto => "auto"

/-- The words of the mask line, if there is one. -/
def affinityWords : Option Affinity → List (List Text)
  | none => []
  | some .shipped => [["worker_cpu_affinity", "1"]]
  | some (.cpus ids) => ["worker_cpu_affinity" :: ids.map mask]

/-- The word of the compression switch. -/
def gzipWord : Gzip → Text
  | .shipped | .off => "off"
  | .on => "on"

/-- The directives of a file with the given values in its edited lines. -/
def directives (settings : Settings) : Directives :=
  .simples
    (["user", "root"] :: [("worker_processes" : Text), workersWord settings.workers] ::
      affinityWords settings.affinity)
    (mainRest (gzipWord settings.gzip))

/-- A file of lines. -/
def fileText (lines : List Text) : Text := lines.flatMap (· ++ ['\n'])

/-! ## Every directive is accepted -/

/-- Whether a row is that of a worker directive. -/
def Row.isWorker (row : Row) : Bool :=
  row.name = "worker_processes" ∨ row.name = "worker_cpu_affinity"

/-- Whether directives fit their rows, none of them a worker directive. -/
def known (rows : List Row) : Context → Directives → Bool
  | _, .done => true
  | cmdType, .simple args rest =>
      (match rows.find? (Row.placed cmdType args) with
        | none => false
        | some row => row.block = none ∧ row.arity.accepts args.length ∧ !row.isWorker) &&
      known rows cmdType rest
  | cmdType, .block args body rest =>
      (match rows.find? (Row.placed cmdType args) with
        | none => false
        | some row =>
            match row.block with
            | some (.directives inner) =>
                row.arity.accepts args.length && !row.isWorker && known rows inner body
            | _ => false) &&
      known rows cmdType rest

section

variable {S : Type} {ngxNcpu : Nat} {others : OtherModules S} {rows : List Row} {row : Row}
  {cmdType : Context} {args : List Text} {opening : Bool} {ccf : CoreModule} {state state' : S}

theorem find_command (first : rows.find? (Row.placed cmdType args) = some row) :
    (rows.map (Row.command ngxNcpu others)).find? (fun row => row.placed cmdType args) =
      some (row.command ngxNcpu others) := by
  rw [List.find?_map]
  exact Option.map_eq_some_iff.mpr ⟨row, first, rfl⟩

theorem fits_command (first : rows.find? (Row.placed cmdType args) = some row)
    (ends : row.block.isSome = opening) (count : row.arity.accepts args.length = true) :
    Fits (rows.map (Row.command ngxNcpu others)) cmdType args opening
      (row.command ngxNcpu others) :=
  ⟨find_command first, ends, count⟩

/-- The functions of the other directives leave the worker fields as they are. -/
theorem command_set (other : row.isWorker = false) (taken : others.set args state = .ok state') :
    (row.command ngxNcpu others).set args (ccf, state) = .ok (ccf, state') := by
  simp only [Row.isWorker, decide_eq_false_iff_not, not_or] at other
  simp only [Row.command, if_neg other.1, if_neg other.2, taken, Except.map]

theorem command_workers (name : row.name = "worker_processes") :
    (row.command ngxNcpu others).set args (ccf, state) =
      (ccf.setWorkerProcesses ngxNcpu args).map (·, state) := if_pos name

theorem command_affinity (name : row.name = "worker_cpu_affinity") :
    (row.command ngxNcpu others).set args (ccf, state) =
      (ccf.setCpuAffinity ngxNcpu args).map (·, state) := by
  have differ : ¬ row.name = "worker_processes" := by
    rw [name]
    decide
  exact (if_neg differ).trans (if_pos name)

theorem command_close (taken : others.close row.name state = .ok state') :
    (row.command ngxNcpu others).close (ccf, state) = .ok (ccf, state') := by
  change (others.close row.name state).map (ccf, ·) = _
  rw [taken]
  rfl

theorem body_command {inner : Context} (block : row.block = some (.directives inner)) :
    (row.command ngxNcpu others).body = .directives inner := by
  have same : (row.command ngxNcpu others).block = some (.directives inner) := block
  rw [Command.body]
  simp only [same]

theorem bind_eq_ok {E X Y : Type} {first : Except E X} {next : X → Except E Y} {out : Y}
    (done : first >>= next = .ok out) : ∃ middle, first = .ok middle ∧ next middle = .ok out := by
  cases first with
  | error error => contradiction
  | ok middle => exact ⟨middle, rfl, done⟩

/-- Directives that fit their rows are accepted when the functions of the rows take them. -/
theorem accepted_of_known {conf : Directives} (fitting : known rows cmdType conf = true)
    (taken : others.run conf state = .ok state') :
    Accepted (rows.map (Row.command ngxNcpu others)) (.directives cmdType) (ccf, state) conf
      (ccf, state') := by
  induction conf generalizing cmdType state state' with
  | done =>
      injection taken with same
      subst same
      exact .done
  | simple args rest induction =>
      rw [known, Bool.and_eq_true] at fitting
      obtain ⟨here, later⟩ := fitting
      obtain ⟨middle, set, behind⟩ := bind_eq_ok taken
      split at here
      · contradiction
      next row first =>
        simp only [Bool.not_eq_true', decide_eq_true_eq] at here
        obtain ⟨block, count, other⟩ := here
        exact .simple (fits_command first (by rw [block]; rfl) count) (command_set other set)
          (induction later behind)
  | block args body rest inner induction =>
      rw [known, Bool.and_eq_true] at fitting
      obtain ⟨here, later⟩ := fitting
      obtain ⟨closed, whole, behind⟩ := bind_eq_ok taken
      obtain ⟨inside, start, close⟩ := bind_eq_ok whole
      obtain ⟨opened, set, bodyTaken⟩ := bind_eq_ok start
      split at here
      · contradiction
      next row first =>
        split at here
        next inner' block =>
          simp only [Bool.and_eq_true, Bool.not_eq_true'] at here
          obtain ⟨⟨count, other⟩, bodyFits⟩ := here
          have placed := List.find?_some first
          simp only [Row.placed, decide_eq_true_eq] at placed
          have name : args.headD [] = row.name := by
            rw [List.headD_eq_head?_getD, placed.1, Option.getD_some]
          rw [name] at close
          have bodyOf : (row.command ngxNcpu others).body = .directives inner' :=
            body_command block
          have accepted := @inner inner' _ _ bodyFits bodyTaken
          rw [← bodyOf] at accepted
          exact .block (fits_command first (by rw [block]; rfl) count) (command_set other set)
            accepted (command_close close) (induction later behind)
        · contradiction

end

/-- The directives of the file but for the worker directives. -/
def otherDirectives (gzip : Text) : Directives := .simple ["user", "root"] (mainRest gzip)

/-- The functions of the other modules take their lines of the file, whatever the compression
switch. -/
def OtherModules.Takes {S : Type} (others : OtherModules S) (start : S) : Prop :=
  ∀ gzip : Gzip, ∃ state, others.run (otherDirectives (gzipWord gzip)) start = .ok state

set_option maxRecDepth 20000 in
/-- The directives behind the worker directives fit their rows. -/
theorem known_mainRest (gzip : Gzip) :
    known shippedRows .main (mainRest (gzipWord gzip)) = true := by
  unfold mainRest eventsBody httpBody httpRest locationRoot shippedRows ngxCoreCommands
    otherCommands
  cases gzip <;>
    (rw [gzipWord]
     unfold known Row.isWorker
     repeat rw [String.toList_ofList]
     decide +kernel)

/-- Rows of the core module, found by their names. -/
theorem rows_core : shippedRows.find? (Row.placed .main ["user", "root"]) =
      some ⟨"user", [.main], .takes [1, 2], none⟩ ∧
    shippedRows.find? (Row.placed .main ["worker_processes"]) =
      some ⟨"worker_processes", [.main], .takes [1], none⟩ ∧
    shippedRows.find? (Row.placed .main ["worker_cpu_affinity"]) =
      some ⟨"worker_cpu_affinity", [.main], .oneMore, none⟩ := by
  unfold shippedRows ngxCoreCommands otherCommands
  repeat rw [String.toList_ofList]
  decide +kernel

section

variable {S : Type} {ngxNcpu : Nat} {others : OtherModules S} {rows : List Row} {row : Row}
  {cmdType : Context} {args : List Text} {ccf ccf' : CoreModule} {state state' : S}

theorem placed_cons (name : Text) (words : List Text) :
    Row.placed cmdType (name :: words) = Row.placed cmdType [name] := by
  funext row
  simp [Row.placed]

/-- The function of the first row takes a simple directive with the right number of words. -/
theorem simple_command {both both' : CoreModule × S}
    (first : rows.find? (Row.placed cmdType args) = some row) (block : row.block = none)
    (count : row.arity.accepts args.length = true)
    (set : (row.command ngxNcpu others).set args both = .ok both') :
    (Body.directives cmdType).simple (rows.map (Row.command ngxNcpu others)) args both =
      .ok both' :=
  simple_directives_iff.mpr ⟨_, fits_command first (by rw [block]; rfl) count, set⟩

/-- A wrong number of words is refused before the function is called. -/
theorem simple_command_refused (first : rows.find? (Row.placed cmdType args) = some row)
    (block : row.block = none) (count : row.arity.accepts args.length = false)
    (both : CoreModule × S) :
    (Body.directives cmdType).simple (rows.map (Row.command ngxNcpu others)) args both =
      .error (.invalidNumber row.name) := by
  have simple : (row.command ngxNcpu others).block = none := block
  have wrong : (row.command ngxNcpu others).arity.accepts args.length = false := count
  have name : (row.command ngxNcpu others).name = row.name := rfl
  have checked : (row.command ngxNcpu others).check args false =
      .error (.invalidNumber row.name) := by
    simp [Command.check, simple, wrong, name]
  rw [Body.simple, ngxConfHandler, lookUp_eq, find_command first]
  simp only [checked, Except.map]

theorem simple_user (taken : others.set ["user", "root"] state = .ok state') :
    (Body.directives .main).simple (shippedCommands ngxNcpu others) ["user", "root"] (ccf, state) =
      .ok (ccf, state') :=
  simple_command rows_core.1 rfl rfl (command_set (by decide) taken)

theorem simple_workers {word : Text}
    (taken : ccf.setWorkerProcesses ngxNcpu ["worker_processes", word] = .ok ccf') :
    (Body.directives .main).simple (shippedCommands ngxNcpu others) ["worker_processes", word]
      (ccf, state) = .ok (ccf', state) := by
  have first : shippedRows.find? (Row.placed .main ["worker_processes", word]) =
      some ⟨"worker_processes", [.main], .takes [1], none⟩ := by
    rw [placed_cons]
    exact rows_core.2.1
  refine simple_command first rfl rfl ?_
  rw [command_workers rfl, taken]
  rfl

theorem simple_affinity {masks : List Text} (nonempty : masks ≠ [])
    (taken : ccf.setCpuAffinity ngxNcpu ("worker_cpu_affinity" :: masks) = .ok ccf') :
    (Body.directives .main).simple (shippedCommands ngxNcpu others)
      ("worker_cpu_affinity" :: masks) (ccf, state) = .ok (ccf', state) := by
  have first : shippedRows.find? (Row.placed .main ("worker_cpu_affinity" :: masks)) =
      some ⟨"worker_cpu_affinity", [.main], .oneMore, none⟩ := by
    rw [placed_cons]
    exact rows_core.2.2
  have count : Arity.oneMore.accepts (("worker_cpu_affinity" : Text) :: masks).length = true := by
    have counted := List.length_pos_of_ne_nil nonempty
    simp only [Arity.accepts, List.length_cons, decide_eq_true_eq]
    omega
  refine simple_command first rfl count ?_
  rw [command_affinity rfl, taken]
  rfl

/-- Without a mask the directive is refused. -/
theorem simple_affinity_nil (both : CoreModule × S) :
    (Body.directives .main).simple (shippedCommands ngxNcpu others) ["worker_cpu_affinity"] both =
      .error (.invalidNumber "worker_cpu_affinity") :=
  simple_command_refused rows_core.2.2 rfl rfl both

theorem accepted_simples {commands : List (Command S)} {lines : List (List Text)}
    {rest : Directives} {middle : S}
    (taken : (Body.directives cmdType).simples commands lines state = .ok middle)
    (later : Accepted commands (.directives cmdType) middle rest state') :
    Accepted commands (.directives cmdType) state (.simples lines rest) state' := by
  induction lines generalizing state with
  | nil =>
      injection taken with same
      subst same
      exact later
  | cons line lines induction =>
      rw [Body.simples, List.foldlM_cons] at taken
      obtain ⟨first, here, behind⟩ := bind_eq_ok taken
      obtain ⟨cmd, fits, set⟩ := simple_directives_iff.mp here
      exact .simple fits set (induction behind)

end

end Nginx.ConfFile
