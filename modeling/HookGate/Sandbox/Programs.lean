import HookGate.Sandbox.Host
import HookGate.Shell.Interpreter

/-! # Programs of a sandbox

A sandbox has a shell and a few tools, and runs scripts that it finds among its files. -/
namespace HookGate

/-- What a sandbox hands to the programs that are started in it. -/
structure Sandbox where
  cwd : Sandbox.Location := []
  vars : List (String × String) := []
deriving Repr, DecidableEq

namespace Sandbox

/-- The tools, by name. -/
def tools : List (String × Tool) :=
  [("sh", .shell), ("sleep", .sleep), ("cat", .cat), ("grep", .grep), ("rm", .remove), ("printf", .printf),
   ("echo", .echo), ("true", .succeed), ("false", .fail)]

/-- Where programs are looked for. -/
def searchPath : List String := ["/usr/local/sbin", "/usr/local/bin", "/usr/sbin", "/usr/bin", "/sbin", "/bin"]

/-- The users of a machine, with their home directories and shells. -/
def users : String :=
  let line (name : String) (number group : Nat) (title home shell : String) : String :=
    Text.joinWith ":" [name, "x", Text.ofNat number, Text.ofNat group, title, home, shell] ++ "\n"
  let system (name : String) (number group : Nat) (home : String) : String :=
    line name number group name home "/usr/sbin/nologin"
  line "root" 0 0 "root" "/root" "/bin/bash" ++ system "daemon" 1 1 "/usr/sbin" ++ system "bin" 2 2 "/bin" ++
    system "sys" 3 3 "/dev" ++ line "sync" 4 65534 "sync" "/bin" "/bin/sync" ++
    system "games" 5 60 "/usr/games" ++ system "man" 6 12 "/var/cache/man" ++ system "lp" 7 7 "/var/spool/lpd" ++
    system "mail" 8 8 "/var/mail" ++ system "news" 9 9 "/var/spool/news" ++
    system "uucp" 10 10 "/var/spool/uucp" ++ system "proxy" 13 13 "/bin" ++ system "www-data" 33 33 "/var/www" ++
    system "backup" 34 34 "/var/backups" ++
    line "list" 38 38 "Mailing List Manager" "/var/list" "/usr/sbin/nologin" ++
    line "irc" 39 39 "ircd" "/run/ircd" "/usr/sbin/nologin" ++
    line "_apt" 42 65534 "" "/nonexistent" "/usr/sbin/nologin" ++
    system "nobody" 65534 65534 "/nonexistent"

/-- The devices, by name. -/
def devices : List (String × Device) :=
  [("null", .null), ("zero", .zero), ("full", .full), ("tty", .terminal), ("stdin", .descriptor 0),
    ("stdout", .descriptor 1), ("stderr", .descriptor 2)]

/-- A file system with the tools, devices and a place for each. -/
def emptySystem : FileSystem :=
  let directories : List Location :=
    [["dev"], ["dev", "fd"], ["etc"], ["home"], ["root"], ["run"], ["tmp"], ["usr"], ["usr", "bin"], ["usr", "lib"],
      ["usr", "local"], ["usr", "local", "bin"], ["usr", "local", "sbin"], ["usr", "sbin"], ["var"], ["var", "tmp"]]
  let links := ["bin", "lib", "sbin"].map fun name => ([name], Node.link ("usr/" ++ name))
  let empty : FileSystem :=
    { nodes := directories.map (fun l => (l, Node.directory)) ++ links ++
        devices.map (fun d => (["dev", d.1], .device d.2)) ++
        (List.range 10).map (fun n => (["dev", "fd", Text.ofNat n], .device (.descriptor n))) ++
        tools.map fun t => (["usr", "bin", t.1], .tool t.2) }
  empty.plantFile ["etc", "passwd"] (Text.encode users) false

/-- What a file runs as: a program, and arguments in front of those given. -/
private def runsAs (fs : FileSystem) (cwd : Location) : Nat → String → Node → Except SystemError (Node × String × List String)
  | 0, _, _ => .error (.os .manyLinks)
  | n + 1, path, node =>
    match node with
    | .tool t => .ok (.tool t, path, [])
    | .file _ content true =>
      match Shell.interpreterOf? content with
      | none => .error (.os .badExecutable)
      | some (interpreter, argument) => do
        let interpreter := Shell.Run.pathOf interpreter
        let (_, node) ← fs.find cwd interpreter
        let (program, name, front) ← runsAs fs cwd n interpreter node
        return (program, name, front ++ (argument.map Shell.Run.pathOf).toList ++ [path])
    | _ => .error (.os .denied)

/-- The file of a program, looked for in the search path if its name has no slash. -/
private def findProgram (fs : FileSystem) (cwd : Location) (program : String) : Except SystemError (String × Node) :=
  if program.toList.contains '/' then do
    let (_, node) ← fs.find cwd program
    return (program, node)
  else if program = "" then .error (.os .noEntry)
  else if FileSystem.longestName < program.utf8ByteSize then .error (.os .longName)
  else
    match searchPath.findSome? fun d =>
        let path := Path.join d program
        match fs.find? cwd path with
        | some (.tool t) => some (path, Node.tool t)
        | _ => none with
    | some found => .ok found
    | none => .error (.os .noEntry)

/-- The program that a launch starts, with its arguments and where it runs. -/
private def start (s : Sandbox) (l : Launch) (fs : FileSystem) :
    Except SystemError (Node × String × List String × Location) := do
  let texts := l.program :: l.arguments ++ l.directory.toList ++ l.vars.flatMap fun v => [v.1, v.2]
  if texts.any fun t => t.toList.contains '\x00' then throw .nulInArgument
  let cwd ← match l.directory with
    | none => pure s.cwd
    | some d => match ← fs.find s.cwd d with
      | (place, .directory) => pure place
      | _ => throw (.os .notDirectory)
  let (path, node) ← findProgram fs cwd l.program
  let (program, name, front) ← runsAs fs cwd 5 path node
  return (program, if front.isEmpty then l.program else name, front ++ l.arguments, cwd)

/-- The name under which a program that cannot be started is known. -/
private def shownName (program : String) : String :=
  if program.toList.contains '\x00' then "<string-with-nul>" else program

private def octets (s : String) : Text.Octets := Text.toOctets (Text.encode s)

/-- Starts a program and waits for its end, or for the end of its time. -/
def launch (s : Sandbox) (l : Launch) (fs : FileSystem) : Except LaunchError Finished × FileSystem :=
  match start s l fs with
  | .error e => (.error (.ofStart (shownName l.program) e), fs)
  | .ok (node, name, arguments, cwd) =>
    if l.limitSecs = 0 then (.error (.timedOut 0), fs)
    else
      let here : String := "/" ++ Text.joinWith "/" cwd
      let exported (value : String) : Shell.Variable := { value := some (octets value), exported := true }
      let vars := l.vars ++ s.vars ++ [("PATH", ":".intercalate searchPath)]
      let (ended, machine) := Shell.execute node (octets name) (arguments.map octets)
        { machine := { files := fs, streams := [.source [], .pipe [], .pipe []], deadline := l.limitSecs * 1000 }
          name := octets name
          vars := ("PWD", exported here) :: vars.map fun v => (v.1, exported v.2)
          descriptors := [(0, 0), (1, 1), (2, 2)]
          cwd
          process := 1000
          current := 1000 }
      let output (n : Nat) : String :=
        Text.decodeLossy (Text.ofOctets (((machine.streams[n]?).map Shell.Run.textOf).getD ""))
      let finish := [1, 2].foldl (fun t n => max t (Shell.Run.heldUntil machine n)) machine.clock
      let result : Except LaunchError Finished :=
        if machine.deadline ≤ finish then .error (.timedOut l.limitSecs)
        else match ended with
          | none => .error (.timedOut l.limitSecs)
          | some (.normally status) => .ok ⟨output 1, output 2, some status⟩
          | some (.killed _) => .ok ⟨output 1, output 2, none⟩
      (result, machine.files)

/-- The host of a sandbox. -/
def host (s : Sandbox) : Host (StateM FileSystem) := FileSystem.host s.cwd s.launch

end Sandbox

end HookGate
