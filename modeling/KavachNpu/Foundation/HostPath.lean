/-
Module: KavachNpu.Foundation.HostPath
Layer: Foundation
Purpose: Paths as `std::path` reads and joins them, on Unix and on Windows. Windows paths may start with a
  drive, a network share or a device; a verbatim path is taken apart and normalised when it is joined, any
  other has the relative path written behind it.
Trusted boundary: human-reviewed spec
Main exports: PathHost, parsePrefix, pathComponents, pathJoin, WrittenBehind, pathJoin_of_writtenBehind,
  pathJoin_inj
-/
import Mathlib.Data.List.Basic

namespace KavachNpu

/-- The two path syntaxes. -/
inductive PathHost where
  | unix
  | windows
deriving DecidableEq

/-- `is_separator`. -/
def PathHost.isSeparator : PathHost → Char → Bool
  | .unix, c => c == '/'
  | .windows, c => c == '/' || c == '\\'

/-- `Prefix`: what a Windows path can start with. -/
inductive PrefixKind where
  | verbatim (name : List Char)
  | verbatimUnc (server share : List Char)
  | verbatimDisk
  | deviceNs (name : List Char)
  | unc (server share : List Char)
  | disk
deriving DecidableEq

namespace PrefixKind

/-- The characters that the prefix occupies. -/
def length : PrefixKind → Nat
  | .verbatim name => 4 + name.length
  | .verbatimUnc server share =>
      8 + server.length + if share.length > 0 then 1 + share.length else 0
  | .verbatimDisk => 6
  | .deviceNs name => 4 + name.length
  | .unc server share => 2 + server.length + if share.length > 0 then 1 + share.length else 0
  | .disk => 2

def isVerbatim : PrefixKind → Bool
  | .verbatim _ | .verbatimUnc _ _ | .verbatimDisk => true
  | .deviceNs _ | .unc _ _ | .disk => false

def isDrive : PrefixKind → Bool
  | .disk => true
  | _ => false

end PrefixKind

/-! ### Windows prefixes -/

/-- The rest behind a start, in which a slash may stand for each backslash. -/
def stripStart (start path : List Char) : Option (List Char) :=
  if (path.take start.length).map (fun c => if c = '/' then '\\' else c) = start then
    some (path.drop start.length)
  else
    none

/-- The text up to the next separator, and what is behind that; verbatim paths know the backslash only. -/
def parseNextComponent (path : List Char) (verbatim : Bool) : List Char × List Char :=
  let inside := fun c => !(if verbatim then c == '\\' else PathHost.windows.isSeparator c)
  (path.takeWhile inside, (path.dropWhile inside).drop 1)

/-- A drive letter and a colon. -/
def parseDrive : List Char → Bool
  | drive :: ':' :: _ => drive.isAlpha
  | _ => false

/-- The same, with nothing or a separator behind it. -/
def parseDriveExact (path : List Char) : Bool :=
  (path[2]?.all PathHost.windows.isSeparator) && parseDrive path

def parsePrefix (path : List Char) : Option PrefixKind :=
  match stripStart ['\\', '\\'] path with
  | none => if parseDrive path then some .disk else none
  | some behind =>
      -- a verbatim start has to be written with backslashes
      match (stripStart ['?', '\\'] behind).filter fun _ => !(path.take 4).contains '/' with
      | some behind =>
          match stripStart ['U', 'N', 'C', '\\'] behind with
          | some behind =>
              let (server, behind) := parseNextComponent behind true
              let (share, _) := parseNextComponent behind true
              some (.verbatimUnc server share)
          | none =>
              if parseDriveExact behind then
                some .verbatimDisk
              else
                some (.verbatim (parseNextComponent behind true).1)
      | none =>
          match stripStart ['.', '\\'] behind with
          | some behind => some (.deviceNs (parseNextComponent behind false).1)
          | none =>
              let (server, behind) := parseNextComponent behind false
              let (share, _) := parseNextComponent behind false
              if server ≠ [] ∧ share ≠ [] then some (.unc server share) else none

/-! ### Windows components -/

inductive PathComponent where
  | lead (kind : PrefixKind) (text : List Char)
  | rootDir
  | curDir
  | parentDir
  | normal (name : List Char)
deriving DecidableEq

def hasPhysicalRoot (path : List Char) : Bool :=
  path.head?.any PathHost.windows.isSeparator

/-- The components behind a prefix and a root. A dot names the directory itself and is kept in verbatim
    paths only. -/
def bodyComponents (verbatim : Bool) (body : List Char) : List PathComponent :=
  let isSep := fun c => if verbatim then c == '\\' else PathHost.windows.isSeparator c
  (body.splitOnP isSep).filterMap fun text =>
    if text = [] then
      none
    else if text = ['.'] then
      if verbatim then some .curDir else none
    else if text = ['.', '.'] then
      some .parentDir
    else
      some (.normal text)

/-- `Path::components` on Windows. -/
def pathComponents (path : List Char) : List PathComponent :=
  match parsePrefix path with
  | some kind =>
      let rest := path.drop kind.length
      .lead kind (path.take kind.length) ::
        if hasPhysicalRoot rest then
          .rootDir :: bodyComponents kind.isVerbatim (rest.drop 1)
        else if !kind.isDrive && !kind.isVerbatim then
          .rootDir :: bodyComponents kind.isVerbatim rest
        else
          bodyComponents kind.isVerbatim rest
  | none =>
      if hasPhysicalRoot path then
        .rootDir :: bodyComponents false (path.drop 1)
      else if path.head? = some '.' ∧ path[1]?.all PathHost.windows.isSeparator then
        .curDir :: bodyComponents false (path.drop 1)
      else
        bodyComponents false path

/-- A component joined to the components of a verbatim path. -/
def pushComponent (joined : List PathComponent) : PathComponent → List PathComponent
  | .rootDir => joined.take 1 ++ [.rootDir]
  | .curDir => joined
  | .parentDir =>
      match joined.getLast? with
      | some (.normal _) => joined.dropLast
      | _ => joined
  | component => joined ++ [component]

def PathComponent.text : PathComponent → List Char
  | .lead _ text => text
  | .rootDir => ['\\']
  | .curDir => ['.']
  | .parentDir => ['.', '.']
  | .normal name => name

/-- Components written out, with a backslash where the one before asks for it. -/
def renderComponents (needSep : Bool) : List PathComponent → List Char
  | [] => []
  | component :: rest =>
      let separator := if needSep && decide (component ≠ .rootDir) then ['\\'] else []
      let next := match component with
        | .rootDir => false
        | .lead kind _ => !kind.isDrive && decide (kind.length > 0)
        | _ => true
      separator ++ component.text ++ renderComponents next rest

/-! ### Joining -/

/-- The separator put between a base and a relative path: none behind nothing, behind another separator or
    behind a bare Windows drive. -/
def separatorBehind : PathHost → List Char → List Char
  | .unix, base => if base.getLast?.any fun c => !PathHost.unix.isSeparator c then ['/'] else []
  | .windows, base =>
      if (base.getLast?.any fun c => !PathHost.windows.isSeparator c) ∧
          ¬ (parsePrefix base = some .disk ∧ base.length = PrefixKind.disk.length) then
        ['\\']
      else
        []

/-- `Path::join` on Unix: a path from the root replaces the base. -/
def unixJoin (base path : List Char) : List Char :=
  if path.head?.any PathHost.unix.isSeparator then
    path
  else
    base ++ separatorBehind .unix base ++ path

/-- `Path::join` on Windows: a path with a prefix replaces the base, one with a root keeps the prefix of the
    base. -/
def windowsJoin (base path : List Char) : List Char :=
  if (parsePrefix path).isSome then
    path
  else if (parsePrefix base).any PrefixKind.isVerbatim ∧ path ≠ [] then
    renderComponents false ((pathComponents path).foldl pushComponent (pathComponents base))
  else if hasPhysicalRoot path then
    base.take (((parsePrefix base).map PrefixKind.length).getD 0) ++ path
  else
    base ++ separatorBehind .windows base ++ path

/-- `Path::join`. -/
def pathJoin (host : PathHost) (base path : String) : String :=
  match host with
  | .unix => String.ofList (unixJoin base.toList path.toList)
  | .windows => String.ofList (windowsJoin base.toList path.toList)

/-- The path starts where the base ends: it has no root and no prefix, and the base is no verbatim path. -/
def WrittenBehind (host : PathHost) (base path : String) : Prop :=
  match host with
  | .unix => ¬ path.toList.head?.any PathHost.unix.isSeparator
  | .windows => ¬ (parsePrefix base.toList).any PrefixKind.isVerbatim ∧ parsePrefix path.toList = none ∧
      ¬ hasPhysicalRoot path.toList

instance (host : PathHost) (base path : String) : Decidable (WrittenBehind host base path) :=
  match host with
  | .unix => inferInstanceAs (Decidable (¬ _))
  | .windows => inferInstanceAs (Decidable (_ ∧ _ ∧ _))

/-- Such a path is the end of what it is joined to. -/
theorem pathJoin_of_writtenBehind {host : PathHost} {base path : String}
    (behind : WrittenBehind host base path) :
    pathJoin host base path =
      String.ofList (base.toList ++ separatorBehind host base.toList ++ path.toList) := by
  cases host with
  | unix => exact congrArg String.ofList (if_neg behind)
  | windows =>
      obtain ⟨plain, noPrefix, noRoot⟩ := behind
      apply congrArg String.ofList
      unfold windowsJoin
      rw [noPrefix, if_neg (by simp), if_neg fun both => plain both.1, if_neg noRoot]

/-- So it can be read back. -/
theorem pathJoin_inj {host : PathHost} {base path other : String} (behind : WrittenBehind host base path)
    (behind' : WrittenBehind host base other) (same : pathJoin host base path = pathJoin host base other) :
    path = other := by
  rw [pathJoin_of_writtenBehind behind, pathJoin_of_writtenBehind behind'] at same
  have chars := congrArg String.toList same
  rw [String.toList_ofList, String.toList_ofList] at chars
  exact String.toList_inj.mp (List.append_cancel_left chars)

example : pathJoin .windows "C:" "x" = "C:x" := by decide

example : pathJoin .windows "C:\\a" "\\b" = "C:\\b" := by decide

example : pathJoin .windows "\\\\?\\C:\\a" "../b/./c" = "\\\\?\\C:\\b\\c" := by decide

end KavachNpu
