import DropletVision.Cli.Value
import DropletVision.Cli.Usage

/-!
# コマンドラインの読み取り

引数の列を宣言（`CommandSpec`）にしたがって左から一つずつ読む。

* `--` の後はすべて位置引数。
* `--名前` と `--名前=値` は長いオプション、`-abc` は短いオプションの並び。
  短いオプションが値をとるなら、並びの残り（先頭の `=` は除く）がその値になる。
* 値をとるオプションの後に値が無ければ、次の引数を値として待つ。ただし次の引数が
  `-` で始まればオプションとして読む（`--frames -3` の `-3` は知らない引数）。
* オプションの値と位置引数は保留し、次のオプションか位置引数を記録する直前、`--`、
  または終わりに確かめて記録する。そのため知らない引数の誤りは、それより前の値の誤りより
  先に報告される。
* 同じ引数を二度与えると誤り。`-h`・`--help` はその場でヘルプ、`-V`・`--version` は版の表示。
* サブコマンドを持つコマンドでは、サブコマンドの名前に出会ったところで読み取りを渡す。
  `help` ならその後の名前をたどってヘルプを示す。
* 終わりに、必須の位置引数が揃っているかを確かめる。サブコマンドが無ければ、
  引数が一つも無いときはヘルプ、そうでなければ誤り。

## 停止性

引数の列と短いオプションの並びの文字の列に沿った構造的な再帰。
-/

namespace DropletVision.Cli

/-- 読み取った引数：名前と値の組（記録した順）。 -/
abbrev ArgTable := List (String × ArgValue)

/-- 記録を待っている引数。 -/
inductive Pending where
  /-- 値を待っているオプションと、受け取った値。 -/
  | option (o : OptionSpec) (raw : Option String)
  /-- 位置引数とその値。 -/
  | positional (p : PositionalSpec) (raw : String)

/-- 読み取りの途中の状態。 -/
structure ParseState where
  /-- 記録した引数。 -/
  matched : ArgTable := []
  /-- 記録を待っている引数。 -/
  pending : Option Pending := none
  /-- 次の位置引数の番号。 -/
  position : Nat := 0
  /-- `--` の後か。 -/
  escaped : Bool := false

/-- 読み取りが止まる理由。 -/
inductive Stop where
  /-- ヘルプを示す（正常な終わり）。 -/
  | help (c : CommandSpec)
  /-- 版を示す（正常な終わり）。 -/
  | version
  /-- 引数が一つも無い。ヘルプを誤りとして示す。 -/
  | bareHelp (c : CommandSpec)
  /-- 使い方の誤り。 -/
  | error (e : UsageError)

namespace CommandSpec

/-- 長い名前のオプション。 -/
def findLong (c : CommandSpec) (name : String) : Option OptionSpec :=
  c.options.find? (·.long == name)

/-- 短い名前のオプション。 -/
def findShort (c : CommandSpec) (ch : Char) : Option OptionSpec :=
  c.options.find? (·.short == some ch)

/-- 必須の位置引数の名前か。 -/
def isRequired (c : CommandSpec) (id : String) : Bool :=
  c.positionals.any (fun p => p.id == id && p.required)

/-- 使われた引数に合わせた使い方。何も使われていなければふつうの使い方。 -/
def usageFor (c : CommandSpec) (used : List Mention) : String :=
  if used.isEmpty then c.usage else c.shortUsage used

/-- サブコマンドの宣言。 -/
def subcommand? (c : CommandSpec) (name : String) : Option CommandSpec :=
  if c.subcommands.any (·.1 == name) then
    if name == "help" then some helpSpec else subcommandSpec? name
  else none

end CommandSpec

namespace ParseState

/-- 記録した引数の名前。 -/
def ids (st : ParseState) : List String := st.matched.map (·.1)

/-- 記録済みか。 -/
def has (st : ParseState) (id : String) : Bool := st.matched.any (·.1 == id)

/-- 記録する。 -/
def insert (st : ParseState) (id : String) (v : ArgValue) : ParseState :=
  { st with matched := st.matched ++ [(id, v)] }

/-- 記録を消す。 -/
def erase (st : ParseState) (id : String) : ParseState :=
  { st with matched := st.matched.filter (·.1 != id) }

/-- 誤りを報告する前に保留を片づける。値の正否は問わず名前だけを記録する。
値の無いオプションは記録しない。二度目のオプションは一度目の記録も消える。 -/
def settle (st : ParseState) : ParseState :=
  let st' := { st with pending := none }
  match st.pending with
  | some (.option o (some _)) => if st.has o.id then st'.erase o.id else st'.insert o.id .flag
  | some (.positional p _) => st'.insert p.id .flag
  | _ => st'

/-- 使い方に並べるもの：記録した順の引数と、コマンド自身の引数が初めて現れた直後の組。 -/
def mentions (c : CommandSpec) (st : ParseState) : List Mention :=
  (st.ids.foldl (fun (acc : List Mention × Bool) i =>
    if !acc.2 && c.members.contains i then (acc.1 ++ [.arg i, .group], true)
    else (acc.1 ++ [.arg i], acc.2)) ([], false)).1

/-- 使い方に並べる引数（組は含めない）。 -/
def argMentions (st : ParseState) : List Mention := st.ids.map .arg

end ParseState

/-- オプションを記録する。値の数、ヘルプと版、重複、値の読み取りの順に確かめる。 -/
def commit (c : CommandSpec) (st : ParseState) (o : OptionSpec) (raw : Option String) :
    Except Stop ParseState := do
  if o.value.isSome && raw.isNone then throw (.error (.missingValue o.display))
  if o.id == "help" then throw (.help c)
  if o.id == "version" then throw .version
  if st.has o.id then throw (.error (.repeatedArgument o.display c.usage))
  match o.value, raw with
  | some k, some r =>
    match k.read r with
    | .ok v => pure (st.insert o.id v)
    | .error .empty => throw (.error (.missingValue o.display))
    | .error (.invalid shown reason) => throw (.error (.invalidValue o.display shown reason))
  | _, _ => pure (st.insert o.id .flag)

/-- 保留の引数を記録する。空の位置引数は値が無いのと同じ。 -/
def resolvePending (c : CommandSpec) (st : ParseState) : Except Stop ParseState :=
  match st.pending with
  | none => .ok st
  | some (.option o raw) => commit c { st with pending := none } o raw
  | some (.positional p raw) =>
    if raw.isEmpty then .error (.error (.missingValue p.display))
    else .ok ({ st with pending := none }.insert p.id (.text raw))

/-- 保留を片づけてから記録する。 -/
def react (c : CommandSpec) (st : ParseState) (o : OptionSpec) (raw : Option String) :
    Except Stop ParseState := do
  commit c (← resolvePending c st) o raw

/-- 知らない長いオプション `--name`。`rest` は残りの引数（サブコマンドの引数を探すのに使う）。 -/
def unknownLong (c : CommandSpec) (st : ParseState) (name : String) (rest : List String) :
    UsageError :=
  let st := st.settle
  let similar := (similarNames name (c.options.map (·.long))).getLast?
  let viaSubcommand : Option (String × String) :=
    if similar.isSome then none
    else c.subcommands.findSome? (fun (sub, _) =>
      match c.subcommand? sub with
      | some s =>
        match (similarNames name (s.options.map (·.long))).getLast? with
        | some cand => if rest.contains sub then some (sub, cand) else none
        | none => none
      | none => none)
  let used := match similar.bind c.findLong with
    | some o => if st.has o.id then st.argMentions else st.argMentions ++ [.arg o.id]
    | none => st.argMentions
  let asValue := similar.isNone && viaSubcommand.isNone && !st.escaped && !c.positionals.isEmpty
  let arg := "--" ++ name
  let tips := (similar.map (fun s => Tip.similarArgument ("--" ++ s))).toList ++
    (if asValue then [Tip.escapeValue arg] else []) ++
    (viaSubcommand.map (fun (sub, cand) => Tip.subcommandArgument sub ("--" ++ cand))).toList
  .unknownArgument arg tips (c.usageFor used)

/-- 知らない短いオプション `-ch`。 -/
def unknownShort (c : CommandSpec) (st : ParseState) (ch : Char) : UsageError :=
  let arg := "-" ++ String.singleton ch
  let asValue := !st.escaped && !c.positionals.isEmpty
  .unknownArgument arg (if asValue then [.escapeValue arg] else []) c.usage

/-- 短いオプションの並び。 -/
def shortCluster (c : CommandSpec) (st : ParseState) : List Char → Except Stop ParseState
  | [] => .ok st
  | ch :: rest =>
    match c.findShort ch with
    | none => .error (.error (unknownShort c st.settle ch))
    | some o =>
      if o.value.isNone then do
        shortCluster c (← react c st o none) rest
      else if rest.isEmpty then do
        let st ← resolvePending c st
        pure { st with pending := some (.option o none) }
      else
        let attached := match rest with
          | '=' :: v => v
          | v => v
        react c st o (some (String.ofList attached))

/-- 位置引数でない語に出会ったときの誤り。 -/
def strayWord (c : CommandSpec) (st : ParseState) (a : String) : UsageError :=
  if c.subcommands.isEmpty then .unknownArgument a [] c.usage
  else
    let names := c.subcommands.map (·.1)
    if st.escaped && names.contains a then .unknownArgument a [.removeEscape a] c.usage
    else
      let similar := similarNames a names
      .unrecognizedSubcommand a (if similar.isEmpty then [] else [.similarSubcommands similar]) c.usage

/-- 位置引数として受け取る。 -/
def positional (c : CommandSpec) (st : ParseState) (a : String) : Except Stop ParseState :=
  match c.positionals[st.position]? with
  | some p => do
    let st ← resolvePending c st
    pure { st with pending := some (.positional p a), position := st.position + 1 }
  | none => .error (.error (strayWord c st.settle a))

/-- 長いオプション `--body`。 -/
def longOption (c : CommandSpec) (st : ParseState) (body : List Char) (rest : List String) :
    Except Stop ParseState :=
  let name := String.ofList (body.takeWhile (· != '='))
  let value := if body.contains '=' then some (String.ofList ((body.dropWhile (· != '=')).drop 1)) else none
  match c.findLong name with
  | none => .error (.error (unknownLong c st name rest))
  | some o =>
    match o.value, value with
    | some _, some v => react c st o (some v)
    | some _, none => do
      let st ← resolvePending c st
      pure { st with pending := some (.option o none) }
    | none, some v =>
      let used := (st.mentions c).filter (fun m => !((m.id?.map c.isRequired).getD false)) ++ [.arg o.id]
      .error (.error (.unexpectedValue v o.display (c.usageFor used)))
    | none, none => react c st o none

/-- 引数を一つ読む。 -/
def step (c : CommandSpec) (st : ParseState) (a : String) (rest : List String) :
    Except Stop ParseState :=
  if st.escaped then positional c st a
  else if a == "--" then do
    let st ← resolvePending c st
    pure { st with escaped := true }
  else
    match a.toList with
    | '-' :: '-' :: body => longOption c st body rest
    | '-' :: ch :: more => shortCluster c st (ch :: more)
    | _ =>
      match st.pending with
      | some (.option o none) => .ok { st with pending := some (.option o (some a)) }
      | _ => positional c st a

/-- 読み終えたときの確かめ。 -/
def finish (c : CommandSpec) (st : ParseState) : Except Stop ParseState := do
  let st ← resolvePending c st
  if !c.subcommands.isEmpty then
    if st.matched.isEmpty then throw (.bareHelp c)
    throw (.error (.missingSubcommand c.name (c.subcommands.map (·.1)) c.usage))
  let missing := c.positionals.filter (fun p => p.required && !st.has p.id)
  if missing.isEmpty then pure st
  else
    throw (.error (.missingArguments (missing.map (·.display))
      (c.usageFor (st.argMentions ++ missing.map (fun p => .arg p.id)))))

/-- `help` の後の名前をたどる。 -/
def helpTarget : CommandSpec → List String → Except Stop CommandSpec
  | c, [] => .ok c
  | c, a :: rest =>
    match c.subcommand? a with
    | some s => helpTarget s rest
    | none => .error (.error (.unrecognizedSubcommand a [] c.usage))

/-- 宣言 `c` にしたがって読む。サブコマンドに出会えば、その名前と残りの引数も返す。 -/
def parseArgs (c : CommandSpec) : ParseState → List String →
    Except Stop (ParseState × Option (String × List String))
  | st, [] => do pure (← finish c st, none)
  | st, a :: rest =>
    if !st.escaped && c.subcommands.any (·.1 == a) then
      if a == "help" then do throw (.help (← helpTarget c rest))
      else do pure (← resolvePending c st, some (a, rest))
    else do parseArgs c (← step c st a rest) rest

/-- 既定値を補った表。 -/
def withDefaults (c : CommandSpec) (t : ArgTable) : ArgTable :=
  t ++ c.options.filterMap (fun o =>
    match o.value, o.default with
    | some k, some d =>
      if t.any (·.1 == o.id) then none
      else
        match k.read d with
        | .ok v => some (o.id, v)
        | .error _ => none
    | _, _ => none)

namespace ArgTable

/-- 旗が立っているか。 -/
def flag (t : ArgTable) (id : String) : Bool := t.any (·.1 == id)

/-- 文字列の値。 -/
def text? (t : ArgTable) (id : String) : Option String :=
  match t.lookup id with
  | some (.text s) => some s
  | _ => none

/-- 整数の値（無ければ 0）。 -/
def count (t : ArgTable) (id : String) : Nat :=
  match t.lookup id with
  | some (.count n) => n
  | _ => 0

/-- 倍精度の値。 -/
def real? (t : ArgTable) (id : String) : Option Float :=
  match t.lookup id with
  | some (.real x) => some x
  | _ => none

/-- 関心領域の値。 -/
def region? (t : ArgTable) (id : String) : Option Roi :=
  match t.lookup id with
  | some (.region r) => some r
  | _ => none

end ArgTable

end DropletVision.Cli
