import Panorama.Spec.Lifecycle

/-!
# The configuration `main` starts the server with

`main` (native_test.go) builds the configuration of its process's one server, then calls
`NewHealthGServer` and `Start`. With `-config`, the configuration comes from a file, and
`Id` must name an entry of `Peers`, whose address becomes `Addr` when `Addr` is empty and
must equal it otherwise. Without `-config`, `Addr` is `-addr`, with a port drawn from
`[-port_start, -port_end)` unless the address already has one; `Id` is the one argument, and
`DBFile` is `-dbfile`. Every other field keeps its zero value.

`main` then calls `Start(errch)`, drops the error it returns, and waits on `errch`, which
only the goroutine serving RPCs writes to, when `Serve` fails (`Proc`).
-/

namespace Panorama

/-- `dt.HealthServerConfig`: the fields that `main` reads or sets, and `GCConfig`, which
`NewHealthGServer` reads. `Peers` maps each node's id to its address. -/
structure HealthServerConfig where
  addr : String
  id : String
  peers : AList (fun _ : String => String)
  dbFile : String
  gc : GcConfig

/-- How `main` stops before it builds the server: a `panic` with its value, or `flag.Usage()`
(which prints `Usage: <program> [options] [ID]`) followed by `os.Exit(1)`. -/
inductive Exit where
  | panic (value : String)
  | usage
  deriving DecidableEq, Repr

/-- `r.Intn(n)` (math/rand): the value in `[0, n)` that `draw` selects; a panic when
`n ≤ 0`. -/
def intn (n : Int) (draw : Nat) : Except Exit Int :=
  if n ≤ 0 then .error (.panic "invalid argument to Intn") else .ok ((draw : Int) % n)

/-- The command line of `main`: the flags it reads (`-config` is `config`; `-port_start` and
`-port_end` are Go `int`s) and the arguments after them. -/
structure Flags where
  config : String
  addr : String
  dbfile : String
  portStart : Int
  portEnd : Int
  args : List String
  portStart_int : IsInt64 portStart
  portEnd_int : IsInt64 portEnd

/-- The flags at their defaults, before the arguments `args`. -/
def Flags.defaults (args : List String) : Flags :=
  ⟨"", "localhost", "deephealth.db", 10000, 30000, args, by decide, by decide⟩

/-- `main` (native_test.go) up to `NewHealthGServer(config)`: the configuration of the
server, or how `main` stops. `loaded` is what `dt.LoadConfig` reads from the file `-config`
names, or the error it returns; `draw` selects the value of `r.Intn`. Go's `int` is 64-bit, so
the width of the port range and the port wrap (`wrapInt64`). -/
def main (flags : Flags) (loaded : Except String HealthServerConfig) (draw : Nat) :
    Except Exit HealthServerConfig :=
  if flags.config ≠ "" then
    match loaded with
    | .error err => .error (.panic err)
    | .ok config =>
      match config.peers.lookup config.id with
      | none => .error (.panic "Id is not present in peers")
      | some myaddr =>
        if config.addr = "" then .ok { config with addr := myaddr }
        else if config.addr ≠ myaddr then
          .error (.panic "Addr is not the same as the one in peers")
        else .ok config
  else do
    let faddr ← if flags.addr.data.contains ':' then pure flags.addr else do
      let n ← intn (wrapInt64 (flags.portEnd - flags.portStart)) draw
      pure (flags.addr ++ ":" ++ toString (wrapInt64 (flags.portStart + n)))
    match flags.args with
    | [id] => .ok ⟨faddr, id, ∅, flags.dbfile, ⟨false, 0, 0, false⟩⟩
    | _ => .error .usage

/-- The process of `main` once it has built the server (native_test.go:148-172): the
server, the goroutines that can end `main`, and the exit code once `os.Exit` is called. -/
structure Proc where
  server : Server
  /-- The goroutine `self.s.Serve(self.l)` that `Start` spawns; it sends `Serve`'s error on
  `errch`. -/
  serve : Bool
  /-- The goroutine that `-cpuprofile` starts, waiting for `SIGINT` or `SIGTERM`. -/
  signals : Bool
  exit : Option Nat

/-- `main` from `NewHealthGServer(config)` to the return of `gs.Start(errch)`, whose error it
drops, with a server at `addr`, the profile file `cpuprofile` (empty without `-cpuprofile`)
and what `Start` meets outside the code. `main` waits for the whole of `Start`. -/
def Proc.launch (gcFrequency : Int) (cpuprofile : String) (e : StartEnv) (addr : String) :
    Proc :=
  match (Server.new addr).start e with
  | .ok s => ⟨s.finish gcFrequency e, true, cpuprofile != "", none⟩
  | .error _ => ⟨Server.new addr, false, cpuprofile != "", none⟩

/-- One step of `main`'s process, until it exits. -/
inductive Proc.Step (gcFrequency : Int) : Proc → Proc → Prop
  /-- `Serve` fails; its goroutine sends the error on `errch`, and `main` prints
  "Encountered error, exit." and calls `os.Exit(1)`. -/
  | serveFails {p : Proc} (hs : p.serve = true) (he : p.exit = none) :
      Proc.Step gcFrequency p { p with serve := false, exit := some 1 }
  /-- A signal reaches the goroutine of `-cpuprofile`: `gs.Stop(true)`, whose error it drops
  (after which `Serve` returns `nil`), then `os.Exit(0)`. -/
  | signal {p : Proc} (hs : p.signals = true) (he : p.exit = none) :
      Proc.Step gcFrequency p { p with
        server := match p.server.stop with
          | .ok s => s
          | .error _ => p.server
        serve := false, exit := some 0 }
  /-- A step of one of the server's `GC` goroutines. -/
  | gc {p : Proc} {l : GcLoop} (retired : List (String × Nat)) (hl : l ∈ p.server.loops)
      (he : p.exit = none) :
      Proc.Step gcFrequency p { p with server := p.server.collect l retired }

end Panorama
