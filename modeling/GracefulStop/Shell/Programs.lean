import GracefulStop.FileTree
import GracefulStop.Text.Search

/-!
# Installed programs

The programs that a host has installed, how a program is found by its name, and what is started in
the place of a script: the program that its first line names.
-/

namespace GracefulStop.Shell

/-- How a program changes files. -/
inductive FileChange where
  | makeDir
  | touch
  | remove
  /-- Makes files executable, or not. -/
  | allow
  deriving DecidableEq, Repr, Inhabited

/-- What an installed program does. -/
inductive Native where
  /-- Runs a script, in the plain language or in one with more. -/
  | shell (extended : Bool)
  /-- Runs another program, with more variables. -/
  | env
  /-- Waits. -/
  | sleep
  /-- Ends with a status, whatever its arguments are. -/
  | constant (status : Nat)
  /-- Does what the command of the shell does that has its name. -/
  | builtin (name : String)
  /-- Takes options of these letters, and fails with a status on others, and on files that are
  missing if it reads files. -/
  | tool (letters : String) (bad : Nat) (reads : Bool)
  /-- Shows the end of files, and may wait for more of them. -/
  | tail
  /-- Fails with a status on options. -/
  | refusing (status : Nat)
  /-- Takes options of these letters, and changes files. -/
  | change (change : FileChange) (letters : String)
  deriving DecidableEq, Repr, Inhabited

/-- Programs without options of one letter. They fail with a status on them. -/
def plainTools : List (Nat × List String) :=
  [(1,
      ["arch", "base32", "base64", "basename", "basenc", "comm", "cp", "csplit", "dd", "df",
        "dirname", "expand", "factor", "fold", "groups", "hostid", "join", "link", "ln",
        "logname", "mkfifo", "mknod", "mktemp", "mv", "nl", "nproc", "numfmt", "paste", "pathchk",
        "pinky", "ptx", "readlink", "realpath", "rmdir", "seq", "shred", "shuf", "split", "sum",
        "tac", "tsort", "unexpand", "unlink", "users", "who", "whoami", "xargs", "yes"]),
    (2, ["printenv", "tty"]),
    (125, ["nice", "nohup", "stdbuf", "timeout"])]

/-- Programs that fail with a status on the options that are given to the program of a node. -/
def otherTools : List (Nat × List String) :=
  [(1,
      ["b2sum", "chgrp", "chown", "cksum", "cut", "du", "find", "fmt", "gunzip", "gzip",
        "install", "kill", "md5sum", "mount", "od", "pr", "ps", "sed", "sha1sum", "sha224sum",
        "sha256sum", "sha384sum", "sha512sum", "stty", "tr", "truncate", "uniq", "uptime"]),
    (2, ["awk", "egrep", "fgrep", "grep", "mawk", "sort", "which"]),
    (125, ["chroot"])]

/-- The installed programs. -/
def installed : List (String × Native) :=
  [("sh", .shell false), ("dash", .shell false), ("bash", .shell true), ("env", .env),
    ("sleep", .sleep), ("true", .constant 0), ("false", .constant 1), ("echo", .builtin "echo"),
    ("printf", .builtin "printf"), ("test", .builtin "test"), ("[", .builtin "["),
    ("expr", .builtin "expr"), ("pwd", .tool "LP" 1 false),
    ("cat", .tool "AbeEnstTuv" 1 true),
    ("ls", .tool "aAbBcCdDfFgGhHiIklLmnNopqQrRsStTuUvwxXZ1" 2 true),
    ("date", .tool "dfIrRsu" 1 false), ("head", .tool "cnqvz" 1 true),
    ("wc", .tool "clLmw" 1 true), ("uname", .tool "amnoprsvi" 1 false),
    ("id", .tool "aGgnruzZ" 1 false), ("sync", .tool "df" 1 false), ("tee", .tool "aip" 1 false),
    ("tail", .tail), ("mkdir", .change .makeDir "mpvZ"),
    ("touch", .change .touch "acdfhmrt"), ("rm", .change .remove "dfiIrRv"),
    ("chmod", .change .allow "cfvR")] ++
  (plainTools.flatMap fun (status, names) => names.map (·, .tool "" status false)) ++
  otherTools.flatMap fun (status, names) => names.map (·, .refusing status)

/-- Whether a word holds options. -/
def isOption (word : String) : Bool := word.length > 1 && Text.beginsWith word "-"

/-- The letters of the options that a program takes, if it complains of others in the common form.
-/
def Native.letters? : Native → Option String
  | .env => some "iu"
  | .sleep => some ""
  | .tool letters _ _ => some letters
  | .change _ letters => some letters
  | _ => none

/-- What a program that is called by a name writes if it does not know the first of its options. -/
def Native.complaint (native : Native) (name : String) (arguments : List String) : String :=
  match native.letters?, arguments.map String.toList with
  | some letters, ('-' :: letter :: _) :: _ =>
    if letters.toList.contains letter then ""
    else
      name ++ ": invalid option -- '" ++ String.singleton letter ++ "'\nTry '" ++ name ++
        " --help' for more information.\n"
  | _, _ => ""

/-- The directories in which a program is looked up that is named without one. -/
def searchPath : List Path := ["/usr/bin", "/bin"]

/-- The names that lead to installed programs. -/
def places (name : String) : List (List String) := [["usr", "bin", name], ["bin", name]]

/-- The installed program at the end of names. -/
def installedAt? (names : List String) : Option Native :=
  match names with
  | ["bin", name] => installed.lookup name
  | ["usr", "bin", name] => installed.lookup name
  | _ => none

/-- Files of the host that are no programs. -/
def plainFiles : List (List String) :=
  [["etc", "passwd"], ["etc", "group"], ["etc", "hosts"], ["etc", "hostname"],
    ["etc", "shadow"], ["etc", "os-release"], ["dev", "null"], ["dev", "zero"], ["dev", "full"],
    ["dev", "tty"], ["dev", "random"], ["dev", "urandom"]]

/-- Directories of the host. -/
def directories : List (List String) :=
  [["boot"], ["home"], ["lib"], ["opt"], ["proc"], ["root"], ["run"], ["sbin"], ["srv"], ["sys"],
    ["tmp"], ["usr", "lib"], ["var"]]

/-- What the host has installed. -/
def hostFiles : List (List String × File) :=
  (installed.flatMap fun (name, _) => (places name).map fun names => (names, .regular [] true)) ++
    plainFiles.map (·, .regular [] false) ++ directories.map (·, .directory [])

/-- A file tree with what the host has installed. -/
def withHostFiles (files : FileTree) : FileTree :=
  hostFiles.foldl
    (fun files (names, file) =>
      if (files.at? names).isSome then files else files.withFile names file)
    files

/-- The place of a program that is named. Of several failures, a refusal counts. -/
def locate (files : FileTree) (program : Path) : Except FileError Path :=
  if program.isEmpty || program.toList.contains '/' then
    (files.executable program).map fun _ => program
  else
    searchPath.foldr
      (fun dir next =>
        let path := Path.join dir program
        match files.executable path, next with
        | .ok _, _ => .ok path
        | .error .denied, .error _ => .error .denied
        | .error _, next => next)
      (.error .notFound)

/-- The first line of a script: what it is run by, and an argument for that. -/
structure FirstLine where
  interpreter : Path
  argument : Option String
  deriving DecidableEq, Repr

/-- How many octets of a file are looked at for its first line. -/
def lineLimit : Nat := 256

/-- Whether an octet is a blank. -/
def isBlankOctet (octet : UInt8) : Bool := octet == 32 || octet == 9

/-- Octets without the blanks at their end. -/
def trimRight (octets : List UInt8) : List UInt8 := (octets.reverse.dropWhile isBlankOctet).reverse

/-- The first line of a script, if the file is one. A line that does not end among the octets that
are looked at has to show the end of the interpreter's name at least. -/
def firstLine? (octets : List UInt8) : Option FirstLine :=
  match octets with
  | 35 :: 33 :: rest =>
    let seen := rest.take (lineLimit - 2)
    let line := seen.takeWhile fun octet => octet != 10 && octet != 0
    let isWhole := seen[line.length]? = some 10
    let isCut := !isWhole && line.length = lineLimit - 2
    let isTorn := isCut && !(line.dropWhile isBlankOctet).any isBlankOctet
    let line :=
      if isWhole then trimRight line else if isCut then trimRight line.dropLast else line
    let named := line.dropWhile isBlankOctet
    let name := named.takeWhile fun octet => !isBlankOctet octet
    let behind := named.drop name.length
    if (isWhole && named.isEmpty) || isTorn then none
    else
      some
        { interpreter := Text.ofUtf8 name
          argument :=
            if behind.isEmpty then none else some (Text.ofUtf8 (behind.dropWhile isBlankOctet)) }
  | _ => none

/-- What is started for an executable file with some arguments: an installed program, with arguments
of its own. A script may be run by another script, down to some depth. -/
def startOf (files : FileTree) : (depth : Nat) → Path → List String →
    Except FileError (Native × List String)
  | 0, path, _ => do
    let _ ← files.executable path
    .error .tooManyLinks
  | depth + 1, path, arguments => do
    if path.isEmpty then .error .denied
    let octets ← files.executable path
    match installedAt? (← files.resolve path) with
    | some native => .ok (native, arguments)
    | none =>
      match firstLine? octets with
      | none => .error .noProgram
      | some line =>
        startOf files depth line.interpreter (line.argument.toList ++ path :: arguments)

/-- How many files are looked at to find out what is started. -/
def startDepth : Nat := 6

end GracefulStop.Shell
