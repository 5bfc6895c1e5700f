import SecScan.Cli.Run
import SecScan.Completion.Client

/-!
The `aisast` program: the command line run on the real files and environment.

The files the run may look at are read first: everything under the working directory, what the
paths among the arguments lead to, and the configuration directories. Links are kept as links to
their real targets; a link that leads nowhere is kept as a link to itself, which leads nowhere
too. No completion service can be reached, so every call to one fails. After the run its output
is written out, the files it changed are written back, and it exits with its code.
-/

open System (FilePath)

namespace SecScan.Cli

/-- The environment variables the command line reads. -/
def readVariables : List String :=
  ["HOME", "XDG_CONFIG_HOME", "AISAST_PROVIDER", "AISAST_MODEL", "AISAST_BASE_URL", "AISAST_API_KEY",
   "OPENAI_API_KEY", "GROQ_API_KEY", "ANTHROPIC_API_KEY", "AISAST_ENRICH", "AISAST_TIMEOUT",
   "AISAST_DEADLINE", "AISAST_MAX_CONCURRENCY", "AISAST_WEB_PORT", "SONARQUBE_URL",
   "SONARQUBE_TOKEN"]

/-- A completion service that cannot be reached. -/
def unreachable (kind : Config.ClientKind) (llm : Config.LlmSettings) : Analysis.Service :=
  { name := Completion.clientName kind llm, answer := fun _ _ _ => .failed "connection refused" }

/-- An absolute path's text from a path and the working directory's. -/
def absoluteFrom (cwd path : String) : String :=
  if path.startsWith "/" then path else cwd ++ "/" ++ path

/-- Adds what is at an absolute path to the tree: a file with its bytes, a directory with
everything in it, a link with its real target. `depth` bounds how far links are followed out of
what was asked for; `seen` holds the paths already read. -/
partial def snapshot (depth : Nat) (acc : Files.Tree × List (List String)) (path : String) :
    IO (Files.Tree × List (List String)) := do
  let (t, seen) := acc
  let comps := Files.Tree.normalizeNames (path.splitOn "/")
  if seen.contains comps then return acc
  let seen := comps :: seen
  let info ← try some <$> FilePath.symlinkMetadata ⟨Files.pathText comps⟩ catch _ => pure none
  match info with
  | none => return (t, seen)
  | some info =>
    match info.type with
    | .symlink =>
      let target ← try (fun p => some p.toString) <$> IO.FS.realPath ⟨Files.pathText comps⟩
        catch _ => pure none
      match target with
      | some target =>
        let t := t.put comps (.link target)
        if depth == 0 then return (t, seen) else snapshot (depth - 1) (t, seen) target
      | none => return (t.put comps (.link (Files.pathText comps)), seen)
    | .dir =>
      let entries ← try FilePath.readDir ⟨Files.pathText comps⟩ catch _ => pure #[]
      entries.foldlM (fun acc e => snapshot depth acc (Files.pathText (comps ++ [e.fileName])))
        (if comps.isEmpty then t else t.put comps .dir, seen)
    | .file =>
      let bytes ← try IO.FS.readBinFile ⟨Files.pathText comps⟩ catch _ => pure ByteArray.empty
      return (t.put comps (.file bytes), seen)
    | _ => return (t, seen)

/-- Writes back every file the run changed or made. -/
def writeChanges (before after : Files.Tree) : IO Unit := do
  for (comps, node) in after.nodes do
    match node, before.at? comps with
    | .file now, some (.file was) =>
      if now.data != was.data then IO.FS.writeBinFile ⟨Files.pathText comps⟩ now
    | .file now, _ => IO.FS.writeBinFile ⟨Files.pathText comps⟩ now
    | _, _ => pure ()

end SecScan.Cli

open SecScan SecScan.Cli in
/-- Runs the command line and exits with its code. -/
def main (args : List String) : IO UInt32 := do
  let cwd := (← IO.currentDir).toString
  let env ← readVariables.filterMapM fun n => do pure ((← IO.getEnv n).map (n, ·))
  let home := (env.lookup "HOME").getD "/"
  let places := [cwd, absoluteFrom cwd (home ++ "/.config/aisast")] ++
    ((env.lookup "XDG_CONFIG_HOME").toList.map fun x => absoluteFrom cwd (x ++ "/aisast")) ++
    args.map (absoluteFrom cwd)
  let (tree, _) ← places.foldlM (snapshot 8) (⟨[]⟩, [])
  let inv : Invocation :=
    { args := args, env := env, tree := tree, cwd := Files.components cwd, connect := unreachable }
  let o := run inv
  IO.print o.stdout
  IO.eprint o.stderr
  match o.crash with
  | some (kind, message) => IO.eprintln (kind ++ ": " ++ message)
  | none => pure ()
  writeChanges tree o.tree
  return o.exitCode.toUInt32
