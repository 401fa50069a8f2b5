/-
Rendered pages: a bitmap of PDFium written as a PNG file.

A bitmap is what the renderer hands over: rows of pixels in one of eight layouts, each row padded to the stride.
Negative sizes, which `struct.pack` refuses, are left out. The compressor of zlib is a parameter (`Zlib`); that
decompression undoes it is `Zlib.Inverse`. `decodePng` reads such a file back: the chunks with their checksums, a header
with eight bits a channel, no filter and no interlacing.

- `decode_bitmapToPng`: the file that is written decodes, to the pixels of the converted rows.
- `convertBitmapRow_getD`: where the loop puts each byte of a row.
- `pixels_kept_iff`: every pixel is kept, except that RGBX is read as BGRX.
-/
import AtoService.Extraction.SafeZip
import AtoService.Lib.PyText

namespace AtoService.Extraction.Bitmaps

open Results

/-! ## Checksums and chunks -/

def crcBit (c : UInt32) : UInt32 := if c % 2 = 1 then (c >>> 1) ^^^ 0xEDB88320 else c >>> 1

def crcByte (c : UInt32) (b : UInt8) : UInt32 := (List.range 8).foldl (fun c _ => crcBit c) (c ^^^ b.toUInt32)

/-- `zlib.crc32(data, value)` -/
def crc32 (data : List UInt8) (value : UInt32) : UInt32 := data.foldl crcByte (value ^^^ 0xFFFFFFFF) ^^^ 0xFFFFFFFF

/-- a checksum can be taken in parts -/
theorem crc32_append (a b : List UInt8) (value : UInt32) : crc32 (a ++ b) value = crc32 b (crc32 a value) := by
  simp only [crc32, List.foldl_append, UInt32.xor_assoc, UInt32.xor_self, UInt32.xor_zero]

inductive RenderError where
  | extraction (e : ExtractionError)
  | structError
deriving DecidableEq, Repr

def bigEndian (n : Nat) : List UInt8 :=
  [UInt8.ofNat (n / 0x1000000), UInt8.ofNat (n / 0x10000), UInt8.ofNat (n / 0x100), UInt8.ofNat n]

/-- `struct.pack(">I", n)` -/
def pack32 (n : Nat) : Except RenderError (List UInt8) :=
  if n < 0x100000000 then .ok (bigEndian n) else .error .structError

def readBig : List UInt8 → Nat
  | [a, b, c, d] => ((a.toNat * 0x100 + b.toNat) * 0x100 + c.toNat) * 0x100 + d.toNat
  | _ => 0

theorem readBig_bigEndian {n : Nat} (h : n < 0x100000000) : readBig (bigEndian n) = n := by
  simp only [readBig, bigEndian, UInt8.toNat_ofNat']
  omega

theorem length_bigEndian (n : Nat) : (bigEndian n).length = 4 := rfl

def pngChunk (chunkType data : List UInt8) : Except RenderError (List UInt8) := do
  let checksum := crc32 data (crc32 chunkType 0)
  let length ← pack32 data.length
  let sum ← pack32 checksum.toNat
  return length ++ chunkType ++ data ++ sum

/-- the data of a chunk of the type, and what comes after it -/
def readChunk (chunkType bytes : List UInt8) : Option (List UInt8 × List UInt8) :=
  let body := bytes.drop 4
  let content := body.drop 4
  let n := readBig (bytes.take 4)
  let data := content.take n
  let rest := content.drop n
  if body.take 4 = chunkType ∧ data.length = n ∧ rest.take 4 = bigEndian (crc32 (chunkType ++ data) 0).toNat then
    some (data, rest.drop 4)
  else none

theorem readChunk_pngChunk {chunkType data bytes : List UInt8} (htype : chunkType.length = 4)
    (h : pngChunk chunkType data = .ok bytes) (rest : List UInt8) :
    readChunk chunkType (bytes ++ rest) = some (data, rest) := by
  simp only [pngChunk, bind_eq_ok, pure_eq_ok] at h
  obtain ⟨length, hlength, sum, hsum, rfl⟩ := h
  rw [pack32] at hlength hsum
  split_ifs at hlength hsum with hn hs
  obtain rfl := Except.ok.inj hlength
  obtain rfl := Except.ok.inj hsum
  have hsplit : bigEndian data.length ++ chunkType ++ data ++ bigEndian (crc32 data (crc32 chunkType 0)).toNat ++ rest =
      bigEndian data.length ++ (chunkType ++ (data ++ (bigEndian (crc32 (chunkType ++ data) 0).toNat ++ rest))) := by
    simp only [crc32_append, List.append_assoc]
  simp only [readChunk, hsplit, List.take_left' (length_bigEndian _), List.drop_left' (length_bigEndian _),
    readBig_bigEndian hn, List.take_left' htype, List.drop_left' htype, List.take_left, List.drop_left, and_self,
    if_true]

/-! ## The compressor -/

/-- `zlib.compressobj(level=6)`, and `zlib.decompress` -/
structure Zlib where
  State : Type
  compressobj : State
  compress : State → List UInt8 → State × List UInt8
  flush : State → List UInt8
  decompress : List UInt8 → Option (List UInt8)

/-- what a compressor returns for the parts, and for its flush after them -/
def Zlib.output (z : Zlib) : z.State → List (List UInt8) → List UInt8
  | s, [] => z.flush s
  | s, part :: parts => (z.compress s part).2 ++ z.output (z.compress s part).1 parts

/-- decompression undoes compression -/
def Zlib.Inverse (z : Zlib) : Prop := ∀ parts, z.decompress (z.output z.compressobj parts) = some parts.flatten

/-! ## Bitmaps -/

structure Bitmap where
  width : Nat
  height : Nat
  stride : Nat
  mode : String
  buffer : List UInt8

/-- `str(bitmap.mode).upper()`; no other character has a letter of a mode as its upper case -/
def Bitmap.upperMode (b : Bitmap) : String := String.ofList ((Py.chars b.mode).map Char.toUpper)

/-- the channels of a pixel in the bitmap and in the file, and the color type -/
structure Layout where
  sourceChannels : Nat
  pngChannels : Nat
  colorType : Nat
deriving DecidableEq, Repr

def layout (mode : String) : Option Layout :=
  if mode ∈ ["BGR", "RGB"] then some ⟨3, 3, 2⟩
  else if mode ∈ ["BGRA", "RGBA", "BGRX", "RGBX"] then
    let pngChannels := if mode ∈ ["BGRA", "RGBA"] then 4 else 3
    some ⟨4, pngChannels, if pngChannels = 4 then 6 else 2⟩
  else if mode ∈ ["L", "GRAY"] then some ⟨1, 1, 0⟩
  else none

/-- `buffer[start : start + bytes.length] = bytes` -/
def writeAt (buffer : List UInt8) (start : Nat) (bytes : List UInt8) : List UInt8 :=
  buffer.take start ++ bytes ++ buffer.drop (start + bytes.length)

/-- one pass of the loop, for the pixel at `inputIndex` -/
def convertPixel (source : List UInt8) (pngChannels : Nat) (state : List UInt8 × Nat) (inputIndex : Nat) :
    List UInt8 × Nat :=
  let (converted, outputIndex) := state
  let converted := writeAt converted outputIndex
    [source.getD (inputIndex + 2) 0, source.getD (inputIndex + 1) 0, source.getD inputIndex 0]
  let converted :=
    if pngChannels = 4 then writeAt converted (outputIndex + 3) [source.getD (inputIndex + 3) 0] else converted
  (converted, outputIndex + pngChannels)

/-- `range(0, stop, step)` -/
def rangeBy (stop step : Nat) : List Nat := (List.range ((stop + step - 1) / step)).map (· * step)

/-- the modes whose rows are kept as they are -/
def keptModes : List String := ["RGB", "RGBA", "L", "GRAY"]

def convertBitmapRow (source : List UInt8) (mode : String) (l : Layout) : List UInt8 :=
  if mode ∈ keptModes then source
  else
    ((rangeBy source.length l.sourceChannels).foldl (convertPixel source l.pngChannels)
      (List.replicate (source.length / l.sourceChannels * l.pngChannels) 0, 0)).1

def ihdrType : List UInt8 := [0x49, 0x48, 0x44, 0x52]

def idatType : List UInt8 := [0x49, 0x44, 0x41, 0x54]

def iendType : List UInt8 := [0x49, 0x45, 0x4E, 0x44]

def maxRenderedPngBytes : Nat := 104857600

def pngSignature : List UInt8 := [0x89, 0x50, 0x4E, 0x47, 0x0D, 0x0A, 0x1A, 0x0A]

def parseFailed (message : String) : RenderError := .extraction ⟨message, "source_parse_failed"⟩

def limitExceeded (message : String) : RenderError := .extraction ⟨message, "package_limit_exceeded"⟩

/-- `bytes(raw[i * stride : i * stride + row_bytes])` -/
def Bitmap.row (b : Bitmap) (rowBytes i : Nat) : List UInt8 := (b.buffer.drop (i * b.stride)).take rowBytes

/-- the compressor with what it has returned so far -/
structure Compressed (z : Zlib) where
  state : z.State
  parts : List UInt8
  size : Nat

def compressRow (z : Zlib) (b : Bitmap) (l : Layout) (c : Compressed z) (i : Nat) :
    Except RenderError (Compressed z) := do
  let source := b.row (b.width * l.sourceChannels) i
  let converted := convertBitmapRow source b.upperMode l
  let (state, part) := z.compress c.state (0 :: converted)
  let size := c.size + part.length
  ensure (size ≤ maxRenderedPngBytes) (limitExceeded "rendered PNG exceeds output byte limit")
  return ⟨state, c.parts ++ part, size⟩

def bitmapToPng (z : Zlib) (b : Bitmap) : Except RenderError (List UInt8) := do
  let l ← orRaise (layout b.upperMode) (parseFailed ("unsupported PDF bitmap mode: " ++ b.upperMode))
  ensure (b.width * l.sourceChannels ≤ b.stride ∧ b.stride * b.height ≤ b.buffer.length)
    (parseFailed "pdf bitmap buffer is truncated")
  let c ← (List.range b.height).foldlM (compressRow z b l) ⟨z.compressobj, [], 0⟩
  let finalPart := z.flush c.state
  ensure (c.size + finalPart.length ≤ maxRenderedPngBytes) (limitExceeded "rendered PNG exceeds output byte limit")
  let width ← pack32 b.width
  let height ← pack32 b.height
  let ihdr ← pngChunk ihdrType (width ++ height ++ [8, UInt8.ofNat l.colorType, 0, 0, 0])
  let idat ← pngChunk idatType (c.parts ++ finalPart)
  let iend ← pngChunk iendType []
  let png := pngSignature ++ ihdr ++ idat ++ iend
  ensure (png.length ≤ maxRenderedPngBytes) (limitExceeded "rendered PNG exceeds output byte limit")
  return png

/-! ## Reading the file -/

inductive Pixel where
  | grey (value : UInt8)
  | rgb (red green blue : UInt8)
  | rgba (red green blue alpha : UInt8)
deriving DecidableEq, Repr

/-- the pixels, row by row -/
structure Image where
  width : Nat
  height : Nat
  rows : List (List Pixel)
deriving DecidableEq, Repr

def channelsOf (colorType : UInt8) : Option Nat :=
  if colorType = 0 then some 1 else if colorType = 2 then some 3 else if colorType = 6 then some 4 else none

/-- the pixel of a color type whose samples are `byte 0`, `byte 1`, … -/
def pixelOf (colorType : UInt8) (byte : Nat → UInt8) : Pixel :=
  if colorType = 6 then .rgba (byte 0) (byte 1) (byte 2) (byte 3)
  else if colorType = 2 then .rgb (byte 0) (byte 1) (byte 2)
  else .grey (byte 0)

/-- rows of `rowBytes` bytes, each behind the filter type 0 -/
def readRows (rowBytes : Nat) : Nat → List UInt8 → Option (List (List UInt8))
  | 0, data => if data = [] then some [] else none
  | _ + 1, [] => none
  | k + 1, filter :: data =>
    if filter = 0 ∧ rowBytes ≤ data.length then
      (readRows rowBytes k (data.drop rowBytes)).map fun rows => data.take rowBytes :: rows
    else none

/-- the pixels of a row of `width` pixels of `channels` bytes -/
def pixelRow (pixel : (Nat → UInt8) → Pixel) (width channels : Nat) (row : List UInt8) : List Pixel :=
  (List.range width).map fun column => pixel fun k => row.getD (column * channels + k) 0

def readHeader : List UInt8 → Option (Nat × Nat × UInt8)
  | [w₁, w₂, w₃, w₄, h₁, h₂, h₃, h₄, 8, colorType, 0, 0, 0] =>
    some (readBig [w₁, w₂, w₃, w₄], readBig [h₁, h₂, h₃, h₄], colorType)
  | _ => none

def skipSignature (png : List UInt8) : Option (List UInt8) :=
  if png.take 8 = pngSignature then some (png.drop 8) else none

def atEnd (iend png : List UInt8) : Option Unit := if iend = [] ∧ png = [] then some () else none

def decodePng (z : Zlib) (png : List UInt8) : Option Image := do
  let png ← skipSignature png
  let (ihdr, png) ← readChunk ihdrType png
  let (idat, png) ← readChunk idatType png
  let (iend, png) ← readChunk iendType png
  let _ ← atEnd iend png
  let (width, height, colorType) ← readHeader ihdr
  let channels ← channelsOf colorType
  let data ← z.decompress idat
  let rows ← readRows (width * channels) height data
  return ⟨width, height, rows.map (pixelRow (pixelOf colorType) width channels)⟩

/-! ## What a bitmap shows -/

def bytesPerPixel (mode : String) : Nat :=
  if mode ∈ ["L", "GRAY"] then 1 else if mode ∈ ["BGR", "RGB"] then 3 else 4

/-- the pixel that a mode assigns to its bytes -/
def assigned (mode : String) (byte : Nat → UInt8) : Pixel :=
  if mode ∈ ["RGB", "RGBX"] then .rgb (byte 0) (byte 1) (byte 2)
  else if mode = "RGBA" then .rgba (byte 0) (byte 1) (byte 2) (byte 3)
  else if mode ∈ ["BGR", "BGRX"] then .rgb (byte 2) (byte 1) (byte 0)
  else if mode = "BGRA" then .rgba (byte 2) (byte 1) (byte 0) (byte 3)
  else .grey (byte 0)

/-- byte `k` of a pixel -/
def Bitmap.byte (b : Bitmap) (row column k : Nat) : UInt8 :=
  b.buffer.getD (row * b.stride + (column * bytesPerPixel b.upperMode + k)) 0

def Bitmap.image (b : Bitmap) : Image :=
  ⟨b.width, b.height, (List.range b.height).map fun row => (List.range b.width).map fun column =>
    assigned b.upperMode (b.byte row column)⟩

/-! ## The conversion of a row -/

theorem writeAt_append (front middle back bytes : List UInt8) (h : middle.length = bytes.length) :
    writeAt (front ++ (middle ++ back)) front.length bytes = front ++ (bytes ++ back) := by
  rw [writeAt, List.take_left, ← h, ← List.drop_drop, List.drop_left, List.drop_left, List.append_assoc]

/-- the bytes that the loop writes for a pixel -/
def swapped (source : List UInt8) (l : Layout) (i : Nat) : List UInt8 :=
  let s := i * l.sourceChannels
  [source.getD (s + 2) 0, source.getD (s + 1) 0, source.getD s 0] ++
    if l.pngChannels = 4 then [source.getD (s + 3) 0] else []

variable {source : List UInt8} {l : Layout}

theorem length_swapped (h : l.pngChannels = 3 ∨ l.pngChannels = 4) (i : Nat) :
    (swapped source l i).length = l.pngChannels := by
  rcases h with h | h <;> simp [swapped, h]

theorem convertPixel_swapped (h : l.pngChannels = 3 ∨ l.pngChannels = 4) (done rest : List UInt8) (i : Nat) :
    convertPixel source l.pngChannels (done ++ (List.replicate l.pngChannels 0 ++ rest), done.length)
      (i * l.sourceChannels) = (done ++ swapped source l i ++ rest, done.length + l.pngChannels) := by
  simp only [convertPixel, swapped]
  set pixel := [source.getD (i * l.sourceChannels + 2) 0, source.getD (i * l.sourceChannels + 1) 0,
    source.getD (i * l.sourceChannels) 0] with hpixel
  have hthree : ∀ back, writeAt (done ++ ([0, 0, 0] ++ back)) done.length pixel = done ++ (pixel ++ back) :=
    fun back => writeAt_append _ _ _ _ rfl
  rcases h with h | h
  · rw [h, show List.replicate 3 (0 : UInt8) ++ rest = [0, 0, 0] ++ rest from rfl, hthree]
    simp
  · have hfourth : ∀ byte, writeAt (done ++ pixel ++ ([0] ++ rest)) (done.length + 3) [byte] =
        done ++ pixel ++ ([byte] ++ rest) := by
      intro byte
      rw [show done.length + 3 = (done ++ pixel).length by rw [List.length_append, hpixel]; rfl]
      exact writeAt_append _ _ _ _ rfl
    rw [h, show List.replicate 4 (0 : UInt8) ++ rest = [0, 0, 0] ++ ([0] ++ rest) from rfl, hthree, if_pos rfl,
      if_pos rfl, ← List.append_assoc, hfourth]
    simp

theorem length_flatMap_range {f : Nat → List UInt8} {p : Nat} (hf : ∀ i, (f i).length = p) (n : Nat) :
    ((List.range n).flatMap f).length = n * p := by
  induction n with
  | zero => simp
  | succ n ih =>
    rw [List.range_succ, List.flatMap_append, List.length_append, ih, List.flatMap_singleton, hf, Nat.succ_mul]

/-- rows of blocks of one length, read by block and position -/
theorem getD_flatMap_range {f : Nat → List UInt8} {p n i k : Nat} (hf : ∀ i, (f i).length = p) (hi : i < n)
    (hk : k < p) : ((List.range n).flatMap f).getD (i * p + k) 0 = (f i).getD k 0 := by
  induction n with
  | zero => exact absurd hi (Nat.not_lt_zero i)
  | succ n ih =>
    rw [List.range_succ, List.flatMap_append, List.flatMap_singleton]
    rcases Nat.lt_succ_iff_lt_or_eq.1 hi with hlt | rfl
    · have hbound : i * p + k < n * p := by nlinarith
      rw [List.getD_eq_getElem?_getD, List.getElem?_append_left (by rwa [length_flatMap_range hf]),
        ← List.getD_eq_getElem?_getD, ih hlt]
    · rw [List.getD_eq_getElem?_getD, List.getElem?_append_right (by rw [length_flatMap_range hf]; omega),
        length_flatMap_range hf, Nat.add_sub_cancel_left, ← List.getD_eq_getElem?_getD]

theorem foldl_convertPixel (h : l.pngChannels = 3 ∨ l.pngChannels = 4) {m n : Nat} (hmn : m ≤ n) :
    ((List.range m).map (· * l.sourceChannels)).foldl (convertPixel source l.pngChannels)
      (List.replicate (n * l.pngChannels) 0, 0) =
    ((List.range m).flatMap (swapped source l) ++ List.replicate ((n - m) * l.pngChannels) 0, m * l.pngChannels) := by
  induction m with
  | zero => simp
  | succ m ih =>
    rw [List.range_succ, List.map_append, List.foldl_append, ih (by omega), List.map_singleton, List.foldl_cons,
      List.foldl_nil, List.flatMap_append, List.flatMap_singleton]
    have hlength : ((List.range m).flatMap (swapped source l)).length = m * l.pngChannels :=
      length_flatMap_range (length_swapped h) m
    have hsplit : (n - m) * l.pngChannels = l.pngChannels + (n - (m + 1)) * l.pngChannels := by
      rw [show n - m = n - (m + 1) + 1 by omega, Nat.succ_mul, Nat.add_comm]
    rw [hsplit, List.replicate_add, ← hlength, convertPixel_swapped h, hlength, Nat.succ_mul]

/-- where the loop takes the samples of a pixel from -/
def swap : Nat → Nat
  | 0 => 2
  | 2 => 0
  | k => k

theorem swapped_getD (h : l.pngChannels = 3 ∨ l.pngChannels = 4) {k : Nat} (hk : k < l.pngChannels) (i : Nat) :
    (swapped source l i).getD k 0 = source.getD (i * l.sourceChannels + swap k) 0 := by
  rcases h with h | h
  · rw [h] at hk
    interval_cases k <;> simp [swapped, swap, h]
  · rw [h] at hk
    interval_cases k <;> simp [swapped, swap, h]

theorem rangeBy_mul (n : Nat) {step : Nat} (h : 0 < step) :
    rangeBy (n * step) step = (List.range n).map (· * step) := by
  rw [rangeBy, show n * step + step - 1 = step - 1 + n * step by omega, Nat.add_mul_div_right _ _ h,
    Nat.div_eq_of_lt (by omega), Nat.zero_add]

/-- the layouts of the modes -/
inductive HasLayout : String → Layout → Prop
  | bgr : HasLayout "BGR" ⟨3, 3, 2⟩
  | rgb : HasLayout "RGB" ⟨3, 3, 2⟩
  | bgra : HasLayout "BGRA" ⟨4, 4, 6⟩
  | rgba : HasLayout "RGBA" ⟨4, 4, 6⟩
  | bgrx : HasLayout "BGRX" ⟨4, 3, 2⟩
  | rgbx : HasLayout "RGBX" ⟨4, 3, 2⟩
  | l : HasLayout "L" ⟨1, 1, 0⟩
  | gray : HasLayout "GRAY" ⟨1, 1, 0⟩

variable {mode : String}

theorem hasLayout_of_layout (h : layout mode = some l) : HasLayout mode l := by
  rw [layout] at h
  by_cases h₁ : mode ∈ ["BGR", "RGB"]
  · rw [if_pos h₁] at h
    simp only [List.mem_cons, List.not_mem_nil, or_false] at h₁
    rcases h₁ with rfl | rfl <;> obtain rfl := Option.some.inj h <;> constructor
  by_cases h₂ : mode ∈ ["BGRA", "RGBA", "BGRX", "RGBX"]
  · rw [if_neg h₁, if_pos h₂] at h
    simp only [List.mem_cons, List.not_mem_nil, or_false] at h₂
    rcases h₂ with rfl | rfl | rfl | rfl <;> obtain rfl := Option.some.inj h <;> constructor
  by_cases h₃ : mode ∈ ["L", "GRAY"]
  · rw [if_neg h₁, if_neg h₂, if_pos h₃] at h
    simp only [List.mem_cons, List.not_mem_nil, or_false] at h₃
    rcases h₃ with rfl | rfl <;> obtain rfl := Option.some.inj h <;> constructor
  · rw [if_neg h₁, if_neg h₂, if_neg h₃] at h
    cases h

theorem layout_kept (h : layout mode = some l) (hkept : mode ∈ keptModes) : l.pngChannels = l.sourceChannels := by
  cases hasLayout_of_layout h
  all_goals first | rfl | exact absurd hkept (by decide)

theorem layout_swapped (h : layout mode = some l) (hkept : mode ∉ keptModes) :
    l.pngChannels = 3 ∨ l.pngChannels = 4 := by
  cases hasLayout_of_layout h
  all_goals first | exact Or.inl rfl | exact Or.inr rfl | exact absurd (by decide) hkept

theorem layout_pos (h : layout mode = some l) : 0 < l.sourceChannels := by
  cases hasLayout_of_layout h <;> decide

theorem length_convertBitmapRow (hlayout : layout mode = some l) {n : Nat}
    (hsource : source.length = n * l.sourceChannels) : (convertBitmapRow source mode l).length = n * l.pngChannels := by
  rw [convertBitmapRow]
  split_ifs with hkept
  · rw [hsource, layout_kept hlayout hkept]
  · rw [hsource, rangeBy_mul n (layout_pos hlayout), Nat.mul_div_cancel _ (layout_pos hlayout),
      foldl_convertPixel (layout_swapped hlayout hkept) le_rfl, Nat.sub_self, Nat.zero_mul, List.replicate_zero,
      List.append_nil, length_flatMap_range (length_swapped (layout_swapped hlayout hkept))]

/-- **Where the bytes of a row come from**: from their own places, or with the first and the third sample of each pixel
exchanged. -/
theorem convertBitmapRow_getD (hlayout : layout mode = some l) {n i k : Nat}
    (hsource : source.length = n * l.sourceChannels) (hi : i < n) (hk : k < l.pngChannels) :
    (convertBitmapRow source mode l).getD (i * l.pngChannels + k) 0 =
      source.getD (i * l.sourceChannels + if mode ∈ keptModes then k else swap k) 0 := by
  rw [convertBitmapRow]
  by_cases hkept : mode ∈ keptModes
  · rw [if_pos hkept, if_pos hkept, layout_kept hlayout hkept]
  · rw [if_neg hkept, if_neg hkept, hsource, rangeBy_mul n (layout_pos hlayout),
      Nat.mul_div_cancel _ (layout_pos hlayout), foldl_convertPixel (layout_swapped hlayout hkept) le_rfl, Nat.sub_self,
      Nat.zero_mul, List.replicate_zero, List.append_nil,
      getD_flatMap_range (length_swapped (layout_swapped hlayout hkept)) hi hk,
      swapped_getD (layout_swapped hlayout hkept) hk]

/-! ## The file decodes -/

theorem readRows_flatten {rowBytes : Nat} (rows : List (List UInt8)) (h : ∀ row ∈ rows, row.length = rowBytes) :
    readRows rowBytes rows.length (rows.map (0 :: ·)).flatten = some rows := by
  induction rows with
  | nil => rfl
  | cons row rows ih =>
    have hrow := h row List.mem_cons_self
    rw [List.map_cons, List.flatten_cons, List.cons_append, List.length_cons, readRows,
      if_pos ⟨rfl, by rw [List.length_append, hrow]; omega⟩, List.take_left' hrow, List.drop_left' hrow,
      ih fun r hr => h r (List.mem_cons_of_mem _ hr), Option.map_some]

variable {z : Zlib} {b : Bitmap} {png : List UInt8}

/-- the rows of the bitmap as they are written -/
def Bitmap.converted (b : Bitmap) (l : Layout) : List (List UInt8) :=
  (List.range b.height).map fun i => convertBitmapRow (b.row (b.width * l.sourceChannels) i) b.upperMode l

theorem foldlM_compressRow {rows : List Nat} {c c' : Compressed z}
    (h : rows.foldlM (compressRow z b l) c = .ok c') :
    c'.parts ++ z.flush c'.state = c.parts ++ z.output c.state
      (rows.map fun i => 0 :: convertBitmapRow (b.row (b.width * l.sourceChannels) i) b.upperMode l) := by
  induction rows generalizing c with
  | nil =>
    obtain rfl := Except.ok.inj h
    rfl
  | cons i rows ih =>
    rw [List.foldlM_cons, bind_eq_ok] at h
    obtain ⟨c₁, hrow, hrest⟩ := h
    simp only [compressRow, bind_eq_ok, pure_eq_ok] at hrow
    obtain ⟨_, -, rfl⟩ := hrow
    rw [ih hrest, List.map_cons, Zlib.output, List.append_assoc]

theorem length_row (hstride : b.width * l.sourceChannels ≤ b.stride) (hbuffer : b.stride * b.height ≤ b.buffer.length)
    {i : Nat} (hi : i < b.height) : (b.row (b.width * l.sourceChannels) i).length = b.width * l.sourceChannels := by
  have hend : i * b.stride + b.stride ≤ b.buffer.length := by
    calc i * b.stride + b.stride = b.stride * (i + 1) := by ring
      _ ≤ b.stride * b.height := Nat.mul_le_mul_left _ hi
      _ ≤ b.buffer.length := hbuffer
  rw [Bitmap.row, List.length_take, List.length_drop]
  omega

theorem channelsOf_colorType (h : layout mode = some l) :
    channelsOf (UInt8.ofNat l.colorType) = some l.pngChannels := by
  cases hasLayout_of_layout h <;> rfl

/-- **The file decodes**, to the pixels of the converted rows. -/
theorem decode_bitmapToPng (hz : z.Inverse) (h : bitmapToPng z b = .ok png) :
    ∃ l, layout b.upperMode = some l ∧ b.width * l.sourceChannels ≤ b.stride ∧ b.stride * b.height ≤ b.buffer.length ∧
      decodePng z png = some ⟨b.width, b.height,
        (b.converted l).map (pixelRow (pixelOf (UInt8.ofNat l.colorType)) b.width l.pngChannels)⟩ := by
  simp only [bitmapToPng, bind_eq_ok, orRaise_eq_ok, ensure_eq_ok, pure_eq_ok] at h
  obtain ⟨l, hlayout, _, ⟨hstride, hbuffer⟩, c, hrows, _, -, width, hwidth, height, hheight, ihdr, hihdr, idat, hidat,
    iend, hiend, _, -, rfl⟩ := h
  refine ⟨l, hlayout, hstride, hbuffer, ?_⟩
  rw [pack32] at hwidth hheight
  split_ifs at hwidth hheight with hw hh
  obtain rfl := Except.ok.inj hwidth
  obtain rfl := Except.ok.inj hheight
  have hsplit : pngSignature ++ ihdr ++ idat ++ iend = pngSignature ++ (ihdr ++ (idat ++ (iend ++ []))) := by
    simp only [List.append_assoc, List.append_nil]
  have houtput := foldlM_compressRow hrows
  rw [List.nil_append] at houtput
  have hconverted : ∀ row ∈ b.converted l, row.length = b.width * l.pngChannels := by
    intro row hrow
    obtain ⟨i, hi, rfl⟩ := List.mem_map.1 hrow
    exact length_convertBitmapRow hlayout (length_row hstride hbuffer (List.mem_range.1 hi))
  have hread : readRows (b.width * l.pngChannels) b.height ((b.converted l).map (0 :: ·)).flatten =
      some (b.converted l) := by
    have hall := readRows_flatten (b.converted l) hconverted
    rwa [Bitmap.converted, List.length_map, List.length_range] at hall
  have hheader : readHeader (bigEndian b.width ++ bigEndian b.height ++ [8, UInt8.ofNat l.colorType, 0, 0, 0]) =
      some (b.width, b.height, UInt8.ofNat l.colorType) := by
    rw [show readHeader (bigEndian b.width ++ bigEndian b.height ++ [8, UInt8.ofNat l.colorType, 0, 0, 0]) =
      some (readBig (bigEndian b.width), readBig (bigEndian b.height), UInt8.ofNat l.colorType) from rfl,
      readBig_bigEndian hw, readBig_bigEndian hh]
  have hdata : z.decompress (c.parts ++ z.flush c.state) = some ((b.converted l).map (0 :: ·)).flatten := by
    rw [houtput, hz, Bitmap.converted, List.map_map]
    rfl
  have hskip : skipSignature (pngSignature ++ (ihdr ++ (idat ++ (iend ++ [])))) =
      some (ihdr ++ (idat ++ (iend ++ []))) := by
    rw [skipSignature, List.take_left' (show pngSignature.length = 8 from rfl), if_pos rfl,
      List.drop_left' (show pngSignature.length = 8 from rfl)]
  rw [decodePng, hsplit, hskip]
  simp only [Option.bind_eq_bind, Option.bind_some, readChunk_pngChunk rfl hihdr, readChunk_pngChunk rfl hidat,
    readChunk_pngChunk rfl hiend, hheader, channelsOf_colorType hlayout, hdata, hread]
  rfl

/-! ## Pixels -/

theorem bytesPerPixel_eq (h : layout mode = some l) : bytesPerPixel mode = l.sourceChannels := by
  cases hasLayout_of_layout h <;> rfl

theorem source_lt (h : layout mode = some l) {k : Nat} (hk : k < l.pngChannels) :
    (if mode ∈ keptModes then k else swap k) < l.sourceChannels := by
  cases hasLayout_of_layout h
  all_goals interval_cases k <;> decide

/-- a byte of a converted row is a byte of the pixel in the bitmap -/
theorem converted_byte (h : layout b.upperMode = some l) {row column k : Nat}
    (hstride : b.width * l.sourceChannels ≤ b.stride) (hbuffer : b.stride * b.height ≤ b.buffer.length)
    (hrow : row < b.height) (hcolumn : column < b.width) (hk : k < l.pngChannels) :
    (convertBitmapRow (b.row (b.width * l.sourceChannels) row) b.upperMode l).getD (column * l.pngChannels + k) 0 =
      b.byte row column (if b.upperMode ∈ keptModes then k else swap k) := by
  have hlt := source_lt h hk
  have hinside : column * l.sourceChannels + (if b.upperMode ∈ keptModes then k else swap k) <
      b.width * l.sourceChannels := by
    nlinarith
  rw [convertBitmapRow_getD h (length_row hstride hbuffer hrow) hcolumn hk, Bitmap.byte, bytesPerPixel_eq h, Bitmap.row,
    List.getD_eq_getElem?_getD, List.getElem?_take_of_lt hinside, List.getElem?_drop, ← List.getD_eq_getElem?_getD]

/-- the samples of a pixel, as the file holds them, are those of its mode, except for RGBX -/
theorem pixel_eq_iff (h : layout mode = some l) {sample byte : Nat → UInt8}
    (hsample : ∀ k < l.pngChannels, sample k = byte (if mode ∈ keptModes then k else swap k)) :
    pixelOf (UInt8.ofNat l.colorType) sample = assigned mode byte ↔ (mode = "RGBX" → byte 0 = byte 2) := by
  cases hasLayout_of_layout h
  all_goals simp [pixelOf, assigned, hsample, keptModes, swap]
  exact fun heq => heq.symm

/-- **Pixels are kept**, except that RGBX is written as if it were BGRX. -/
theorem pixels_kept_iff (z : Zlib) (hz : z.Inverse) (b : Bitmap) (png : List UInt8) (h : bitmapToPng z b = .ok png) :
    decodePng z png = some b.image ↔
      (b.upperMode = "RGBX" → ∀ row < b.height, ∀ column < b.width, b.byte row column 0 = b.byte row column 2) := by
  obtain ⟨l, hlayout, hstride, hbuffer, hdecode⟩ := decode_bitmapToPng hz h
  have hpixel : ∀ row < b.height, ∀ column < b.width,
      (pixelOf (UInt8.ofNat l.colorType) (fun k =>
        (convertBitmapRow (b.row (b.width * l.sourceChannels) row) b.upperMode l).getD (column * l.pngChannels + k) 0) =
        assigned b.upperMode (b.byte row column) ↔
        (b.upperMode = "RGBX" → b.byte row column 0 = b.byte row column 2)) :=
    fun row hrow column hcolumn =>
      pixel_eq_iff hlayout fun k hk => converted_byte hlayout hstride hbuffer hrow hcolumn hk
  rw [hdecode, Option.some.injEq, Bitmap.image, Image.mk.injEq, Bitmap.converted, List.map_map]
  simp only [true_and, List.map_inj_left, List.mem_range, Function.comp_apply, pixelRow]
  constructor
  · intro hall hmode row hrow column hcolumn
    exact (hpixel row hrow column hcolumn).1 (hall row hrow column hcolumn) hmode
  · intro hall row hrow column hcolumn
    exact (hpixel row hrow column hcolumn).2 fun hmode => hall hmode row hrow column hcolumn

namespace Samples

def zlibHeader : List UInt8 := [0x78, 0x9C]

def deflated (data : List UInt8) : List UInt8 :=
  if data = [0, 1, 2, 3] then [99, 96, 100, 98, 6, 0, 0, 14, 0, 7] else 0 :: data

def inflated : List UInt8 → Option (List UInt8)
  | 0x78 :: 0x9C :: 0 :: data => some data
  | bytes => if bytes = zlibHeader ++ [99, 96, 100, 98, 6, 0, 0, 14, 0, 7] then some [0, 1, 2, 3] else none

/-- zlib on the four bytes of a sample; the header is written with the first part -/
def zlib : Zlib where
  State := Bool × List UInt8
  compressobj := (false, [])
  compress s part := ((true, s.2 ++ part), if s.1 then [] else zlibHeader)
  flush s := (if s.1 then [] else zlibHeader) ++ deflated s.2
  decompress := inflated

theorem zlib_output (started : Bool) (done : List UInt8) (parts : List (List UInt8)) :
    zlib.output (started, done) parts = (if started then [] else zlibHeader) ++ deflated (done ++ parts.flatten) := by
  induction parts generalizing started done with
  | nil =>
    rw [List.flatten_nil, List.append_nil]
    rfl
  | cons part parts ih =>
    show (if started then [] else zlibHeader) ++ zlib.output (true, done ++ part) parts = _
    rw [ih, if_pos rfl, List.nil_append, List.flatten_cons, List.append_assoc]

theorem zlib_inverse : zlib.Inverse := by
  intro parts
  have houtput := zlib_output false [] parts
  show inflated (zlib.output (false, []) parts) = some parts.flatten
  rw [houtput]
  show inflated (zlibHeader ++ deflated parts.flatten) = some parts.flatten
  rw [deflated]
  by_cases h : parts.flatten = [0, 1, 2, 3]
  · rw [h, if_pos rfl]
    rfl
  · rw [if_neg h]
    rfl

/-- one pixel, with a byte of padding where a pixel has three bytes -/
def pixel (mode : String) : Bitmap := ⟨1, 1, 4, mode, [3, 2, 1, 0]⟩

theorem pixel_written {mode : String} (h : (bitmapToPng zlib (pixel mode)).toBool = true) :
    ∃ png, bitmapToPng zlib (pixel mode) = .ok png := by
  cases hpng : bitmapToPng zlib (pixel mode) with
  | ok png => exact ⟨png, rfl⟩
  | error e =>
    rw [hpng] at h
    cases h

end Samples

open Samples in
theorem pixels_kept_bgr :
    ∃ png, bitmapToPng zlib (pixel "bgr") = .ok png ∧ decodePng zlib png = some (pixel "bgr").image := by
  obtain ⟨png, hpng⟩ := pixel_written (show (bitmapToPng zlib (pixel "bgr")).toBool = true by decide +kernel)
  exact ⟨png, hpng, (pixels_kept_iff zlib zlib_inverse (pixel "bgr") png hpng).2 fun h => absurd h (by decide)⟩

open Samples in
/-- red and blue of an RGBX pixel are exchanged -/
theorem rgbx_exchanged : ¬∀ (z : Zlib) (b : Bitmap) (png : List UInt8), z.Inverse → bitmapToPng z b = .ok png →
    decodePng z png = some b.image := by
  intro h
  obtain ⟨png, hpng⟩ := pixel_written (show (bitmapToPng zlib (pixel "RGBX")).toBool = true by decide +kernel)
  have hkept : decodePng zlib png = some (pixel "RGBX").image := h zlib _ png zlib_inverse hpng
  have hdecoded : (bitmapToPng zlib (pixel "RGBX")).toOption.bind (decodePng zlib) = some ⟨1, 1, [[.rgb 1 2 3]]⟩ := by
    decide +kernel
  rw [hpng] at hdecoded
  exact absurd (hkept.symm.trans hdecoded) (by decide)

end AtoService.Extraction.Bitmaps
