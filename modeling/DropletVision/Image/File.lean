import DropletVision.FileTree
import DropletVision.Image.Png
import DropletVision.Image.Bmp
import DropletVision.Image.Tiff
import DropletVision.Image.Pnm
import DropletVision.Image.Farbfeld
import DropletVision.Image.Qoi
import DropletVision.Image.Tga
import DropletVision.Image.Gif
import DropletVision.Image.Webp

/-!
# 画像ファイル

ファイルの木の上で画像を読み書きする。形式は拡張子（大文字小文字を問わない）で決まる。

* `hasImageExtension` — 画像のディレクトリを調べるときに拾う拡張子
  （png・tif・tiff・bmp・jpg）か。
* `loadImage` — 読んで復号する。灰色の画像は白黒 `[h, w]`、ほかは RGB `[h, w, 3]`。
  ファイルが無いなどの誤りも画像の誤りとして返す。
* `saveImage` — 白黒か RGB のフレームを書く。

PNG・BMP・TIFF・PNM・TGA・WebP（可逆圧縮）を読み書きし、QOI と GIF は RGB のフレームだけを
書き、farbfeld は読むだけ。知られた形式でもほかのものは扱えない誤り、
知られない拡張子や拡張子の無いパスは形式の決まらない誤り。
-/

namespace DropletVision

/-- 画像の形式。 -/
inductive ImageFormat where
  | png
  | bmp
  | tiff
  | pnm
  | farbfeld
  | qoi
  | tga
  | gif
  | webp
  /-- 名前だけ知っていて扱えない形式。 -/
  | other (name : String)
  deriving BEq, Repr

/-- 画像のディレクトリで拾う拡張子。 -/
def imageExtensions : List String := ["png", "tif", "tiff", "bmp", "jpg"]

/-- ASCII の大文字を小文字にする。 -/
def asciiLower (s : String) : String := String.map (fun c =>
  if 'A' ≤ c && c ≤ 'Z' then Char.ofNat (c.toNat + 32) else c) s

/-- 画像のディレクトリで拾う拡張子か。 -/
def hasImageExtension (path : String) : Bool :=
  match FileTree.extension? path with
  | some e => imageExtensions.contains (asciiLower e)
  | none => false

/-- 拡張子から形式を決める。 -/
def ImageFormat.ofExtension (ext : String) : Option ImageFormat :=
  match asciiLower ext with
  | "png" | "apng" => some .png
  | "bmp" => some .bmp
  | "tif" | "tiff" => some .tiff
  | "jpg" | "jpeg" | "jfif" => some (.other "Jpeg")
  | "gif" => some .gif
  | "webp" => some .webp
  | "pbm" | "pam" | "ppm" | "pgm" | "pnm" => some .pnm
  | "tga" => some .tga
  | "dds" => some (.other "Dds")
  | "ico" => some (.other "Ico")
  | "hdr" => some (.other "Hdr")
  | "exr" => some (.other "OpenExr")
  | "ff" => some .farbfeld
  | "avif" => some (.other "Avif")
  | "qoi" => some .qoi
  | _ => none

/-- 形式のバイト列を復号する。 -/
def ImageFormat.decode (f : ImageFormat) (b : ByteArray) : Except ImageError Frame :=
  match f with
  | .png => Png.decode b
  | .bmp => Bmp.decode b
  | .tiff => Tiff.decode b
  | .pnm => Pnm.decode b
  | .farbfeld => Farbfeld.decode b
  | .qoi => Qoi.decode b
  | .tga => Tga.decode b
  | .gif => Gif.decode b
  | .webp => Webp.decode b
  | .other name => .error (.unsupported name "decoding")

/-- 白黒（`[h, w]`）か RGB（`[h, w, 3]`）のフレームを形式のバイト列にする。 -/
def ImageFormat.encode (format : ImageFormat) (f : Frame) : Except ImageError ByteArray :=
  let rgb := f.shape.length == 3
  match format with
  | .png => .ok (Png.encode f)
  | .bmp => .ok (Bmp.encode f)
  | .tiff => .ok (Tiff.encode f)
  | .pnm => .ok (Pnm.encode f)
  | .tga =>
    match Tga.encode f with
    | some b => .ok b
    | none => .error (.unsupported "Tga" "encoding")
  | .qoi => if rgb then .ok (Qoi.encode f) else .error (.unsupported "Qoi" "encoding")
  | .gif =>
    match (if rgb then Gif.encode f else none) with
    | some b => .ok b
    | none => .error (.unsupported "Gif" "encoding")
  | .webp =>
    match Webp.encode f with
    | some b => .ok b
    | none => .error (.unsupported "WebP" "encoding")
  | .farbfeld => .error (.unsupported "Farbfeld" "encoding")
  | .other name => .error (.unsupported name "encoding")

/-- 画像ファイルを読む。 -/
def loadImage (t : FileTree) (path : String) : Outcome Frame := do
  let bytes ← (t.readFile path).mapError (fun e => DetectorError.image (.io e))
  let format ← match (FileTree.extension? path).bind ImageFormat.ofExtension with
    | some f => pure f
    | none => throw (.image .unknownFormat)
  (format.decode bytes).mapError (fun e => match e with
    | .abort m => .abort m
    | e => .image e)

/-- 白黒か RGB のフレームを画像ファイルに書く。 -/
def saveImage (t : FileTree) (f : Frame) (path : String) : Outcome FileTree := do
  f.validate
  match f.shape with
  | [_, _] | [_, _, 3] => pure ()
  | s => throw (.invalidFrame s!"cannot save frame with shape {Frame.showShape s}")
  let bytes ← match FileTree.extension? path with
    | none => throw (.image .unknownFormat)
    | some ext =>
      match ImageFormat.ofExtension ext with
      | none => throw (.image (.unknownExtension ext))
      | some format => (format.encode f).mapError DetectorError.image
  (t.writeFile path bytes).mapError (fun e => DetectorError.image (.io e))

end DropletVision
