/-!
# 使い方の誤り

コマンドラインが宣言に合わないときの報告。

* 一行目は `error: ` と誤りの文。
* 助言があれば空行をおいて `  tip: …` を一行ずつ。
* 使い方を示す誤りなら空行をおいて `Usage: …`。
* 最後に空行をおいて `For more information, try '--help'.`。

似た名前の候補は Jaro の類似度が 0.7 を超えるもので、類似度の低い順に並べる
（同じ類似度なら元の順）。引数の助言では最も似たもの（最後のもの）を一つだけ使う。

## 仕組み

Jaro の類似度は、二つの文字列で「距離 `max(|a|, |b|) / 2 - 1` 以内にある同じ文字」を
`a` の先頭から順に対応づけ、対応した数 `m` と、対応した文字を順に並べたときに
食い違う位置の数の半分 `t` から `(m/|a| + m/|b| + (m - t)/m) / 3` と決める。
-/

namespace DropletVision.Cli

/-- `a` の各文字を `b` の未使用の同じ文字に対応づける。`a` 側と `b` 側の印を返す。 -/
def jaroMarks (a b : List Char) : List Bool × List Bool :=
  let range := max a.length b.length / 2 - 1
  let step (acc : List Bool × List Bool) (ic : Nat × Char) : List Bool × List Bool :=
    let (am, bm) := acc
    let (i, c) := ic
    let lo := i - range
    let hi := min b.length (i + range + 1)
    let hit := (List.range' lo (hi - lo)).find? (fun j => b[j]? == some c && bm[j]? == some false)
    match hit with
    | some j => (am.set i true, bm.set j true)
    | none => (am, bm)
  (a.zipIdx.map (fun (c, i) => (i, c))).foldl step (List.replicate a.length false, List.replicate b.length false)

/-- Jaro の類似度。 -/
def jaro (s t : String) : Float :=
  let a := s.toList
  let b := t.toList
  if a.isEmpty && b.isEmpty then 1.0
  else if a.isEmpty || b.isEmpty then 0.0
  else
    let (am, bm) := jaroMarks a b
    let pick (xs : List Char) (ms : List Bool) : List Char :=
      (xs.zip ms).filterMap (fun (c, m) => if m then some c else none)
    let ma := pick a am
    let mb := pick b bm
    let m := ma.length
    if m == 0 then 0.0
    else
      let t := ((ma.zip mb).filter (fun (x, y) => x != y)).length / 2
      let mf := m.toFloat
      (mf / a.length.toFloat + mf / b.length.toFloat + (m - t).toFloat / mf) / 3.0

/-- 似た候補。類似度の低い順。 -/
def similarNames (v : String) (candidates : List String) : List String :=
  let scored := (candidates.map (fun c => (jaro v c, c))).filter (fun p => p.1 > 0.7)
  (scored.mergeSort (fun p q => p.1 ≤ q.1)).map (·.2)

/-- 誤りに添える助言。 -/
inductive Tip where
  /-- 似たサブコマンドがある。 -/
  | similarSubcommands (names : List String)
  /-- 似た引数がある。 -/
  | similarArgument (flag : String)
  /-- サブコマンドに同じ名前の引数がある。 -/
  | subcommandArgument (subcommand flag : String)
  /-- 値として渡すなら `--` の後に置く。 -/
  | escapeValue (arg : String)
  /-- `--` を外せばサブコマンドになる。 -/
  | removeEscape (subcommand : String)

/-- 助言の文。 -/
def Tip.text : Tip → String
  | .similarSubcommands [n] => s!"a similar subcommand exists: '{n}'"
  | .similarSubcommands ns =>
    "some similar subcommands exist: " ++ ", ".intercalate (ns.map (fun n => "'" ++ n ++ "'"))
  | .similarArgument f => s!"a similar argument exists: '{f}'"
  | .subcommandArgument s f => s!"'{s} {f}' exists"
  | .escapeValue a => s!"to pass '{a}' as a value, use '-- {a}'"
  | .removeEscape s => s!"subcommand '{s}' exists; to use it, remove the '--' before it"

/-- 使い方の誤り。`usage` は添える使い方。 -/
inductive UsageError where
  /-- 知らない引数。 -/
  | unknownArgument (arg : String) (tips : List Tip) (usage : String)
  /-- 知らないサブコマンド。 -/
  | unrecognizedSubcommand (name : String) (tips : List Tip) (usage : String)
  /-- 値が読めない。`shown` は示す値。 -/
  | invalidValue (arg shown reason : String)
  /-- 値が無い。 -/
  | missingValue (arg : String)
  /-- 値をとらない引数に値がある。 -/
  | unexpectedValue (value arg usage : String)
  /-- 同じ引数が二度ある。 -/
  | repeatedArgument (arg usage : String)
  /-- 必須の引数が無い。 -/
  | missingArguments (args : List String) (usage : String)
  /-- サブコマンドが無い。 -/
  | missingSubcommand (command : String) (names : List String) (usage : String)

namespace UsageError

/-- 一行目の文。 -/
def message : UsageError → String
  | .unknownArgument a _ _ => s!"unexpected argument '{a}' found"
  | .unrecognizedSubcommand n _ _ => s!"unrecognized subcommand '{n}'"
  | .invalidValue arg shown reason => s!"invalid value '{shown}' for '{arg}': {reason}"
  | .missingValue arg => s!"a value is required for '{arg}' but none was supplied"
  | .unexpectedValue v arg _ => s!"unexpected value '{v}' for '{arg}' found; no more were expected"
  | .repeatedArgument arg _ => s!"the argument '{arg}' cannot be used multiple times"
  | .missingArguments args _ =>
    "the following required arguments were not provided:" ++ String.join (args.map ("\n  " ++ ·))
  | .missingSubcommand c names _ =>
    s!"'{c}' requires a subcommand but one was not provided" ++
      (if names.isEmpty then "" else "\n  [subcommands: " ++ ", ".intercalate names ++ "]")

/-- 助言。 -/
def tips : UsageError → List Tip
  | .unknownArgument _ ts _ | .unrecognizedSubcommand _ ts _ => ts
  | _ => []

/-- 添える使い方。 -/
def usage? : UsageError → Option String
  | .unknownArgument _ _ u | .unrecognizedSubcommand _ _ u | .unexpectedValue _ _ u
  | .repeatedArgument _ u | .missingArguments _ u | .missingSubcommand _ _ u => some u
  | _ => none

/-- 報告の全文（改行で終わる）。 -/
def render (e : UsageError) : String :=
  let tips := e.tips
  "error: " ++ e.message ++
    (if tips.isEmpty then "" else "\n" ++ String.join (tips.map (fun t => "\n  tip: " ++ t.text))) ++
    (match e.usage? with
      | some u => "\n\nUsage: " ++ u
      | none => "") ++
    "\n\nFor more information, try '--help'.\n"

end UsageError

end DropletVision.Cli
