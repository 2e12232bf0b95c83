import Wt88047.Lib.Padding
import Wt88047.MmCamera.Superbuf

/-! The offset calculators of the streams: where the planes of a frame lie in its buffer, for each image format
that a stream can have. -/

namespace Wt88047.PlaneLayout

open Padding Superbuf

inductive BayerOrder
  | gbrg | grbg | rggb | bggr
  deriving DecidableEq

inductive BayerPacking
  | qcomRaw8Bpp | qcomRaw10Bpp | qcomRaw12Bpp | qcomRaw14Bpp
  | mipiRaw8Bpp | mipiRaw10Bpp | mipiRaw12Bpp | mipiRaw14Bpp
  | idealRawQcom8Bpp | idealRawQcom10Bpp | idealRawQcom12Bpp | idealRawQcom14Bpp
  | idealRawMipi8Bpp | idealRawMipi10Bpp | idealRawMipi12Bpp | idealRawMipi14Bpp
  | idealRawPlain8
  | idealRawPlain16At8Bpp | idealRawPlain16At10Bpp | idealRawPlain16At12Bpp | idealRawPlain16At14Bpp
  deriving DecidableEq

inductive CamFormat
  | jpeg
  | yuv420Nv12 | yuv420Nv21 | yuv420Nv21Adreno | yuv420Yv12 | yuv422Nv16 | yuv422Nv61 | yuv420Nv12Venus
  | yuvRaw8BitYuyv | yuvRaw8BitYvyu | yuvRaw8BitUyvy | yuvRaw8BitVyuy
  | bayer (packing : BayerPacking) (order : BayerOrder)
  | jpegRaw8Bit | metaRaw8Bit | metaRaw10Bit
  deriving DecidableEq

structure Dimension where
  width : Nat
  height : Nat
  deriving DecidableEq

structure PaddingInfo where
  widthPadding : Nat
  heightPadding : Nat
  planePadding : Nat
  deriving DecidableEq

structure PlaneInfo where
  len : Nat
  offset : Nat
  offsetX : Nat
  offsetY : Nat
  stride : Nat
  scanline : Nat
  width : Nat
  height : Nat
  deriving DecidableEq

structure BufPlanes where
  numPlanes : Nat
  mp : Nat → PlaneInfo
  frameLen : Nat

structure StreamInfo where
  fmt : CamFormat
  streamType : StreamType
  truePortrait : Bool
  metaMaxSize : Nat
  deriving DecidableEq

structure VenusMacros where
  yStride : Nat → Nat
  yScanlines : Nat → Nat
  uvStride : Nat → Nat
  uvScanlines : Nat → Nat
  bufferSize : Nat → Nat → Nat

/-- `USE_A_FAMILY` and `VENUS_PRESENT` -/
structure Build where
  aFamily : Bool
  venus : Option VenusMacros

/-- A result of type `int`; none when it overflows. -/
def int (x : Nat) : Option Nat := if x < 2 ^ 31 then some x else none

/-- A result of type `uint32_t`; none when it wraps. -/
def uint (x : Nat) : Option Nat := if x < 2 ^ 32 then some x else none

def padInt (size padding : Nat) : Option Nat := do
  let _ ← int (size + (padding - 1))
  some (padToSize size padding)

def padUint (size padding : Nat) : Option Nat := do
  let _ ← uint (size + (padding - 1))
  some (padToSize size padding)

/-- What a calculator writes: the planes below `num_planes`, and the length of the frame. -/
structure Layout where
  planes : List PlaneInfo
  frameLen : Nat
  deriving DecidableEq

def Layout.writeTo (l : Layout) (buf : BufPlanes) : BufPlanes where
  numPlanes := l.planes.length
  mp := fun i => l.planes[i]?.getD (buf.mp i)
  frameLen := l.frameLen

/-- The sum of the planes, and `extra` bytes, rounded up to pages. -/
def pagedLayout (planes : List PlaneInfo) (extra : Nat) : Option Layout := do
  let sum ← uint ((planes.map (·.len)).sum + extra)
  let frameLen ← padUint sum 4096
  some ⟨planes, frameLen⟩

def previewPlane (stride scanline width height : Nat) : Option PlaneInfo := do
  let len ← int (stride * scanline)
  some ⟨len, 0, 0, 0, stride, scanline, width, height⟩

def previewNv12 (info : StreamInfo) (dim : Dimension) (padding : PaddingInfo) : Option Layout := do
  let offline := info.streamType == .offlineProc
  let widthPadding := if offline then padding.widthPadding else 32
  let heightPadding := if offline then padding.heightPadding else 2
  let stride ← padInt dim.width widthPadding
  let scanline ← padInt dim.height heightPadding
  let y ← previewPlane stride scanline dim.width dim.height
  let uvScanline ← padInt (dim.height / 2) heightPadding
  let uv ← previewPlane stride uvScanline dim.width (dim.height / 2)
  pagedLayout [y, uv] 0

def previewNv21Adreno (dim : Dimension) : Option Layout := do
  let stride ← padInt dim.width 32
  let scanline ← padInt dim.height 32
  let y ← previewPlane stride scanline dim.width dim.height
  let yLen ← padUint y.len 4096
  let uvHalf ← padInt (dim.width / 2) 32
  let uvStride ← int (uvHalf * 2)
  let uvScanline ← padInt (dim.height / 2) 32
  let uv ← previewPlane uvStride uvScanline dim.width (dim.height / 2)
  let uvLen ← padUint uv.len 4096
  pagedLayout [{ y with len := yLen }, { uv with len := uvLen }] 0

def previewYv12 (dim : Dimension) : Option Layout := do
  let stride ← padInt dim.width 16
  let scanline ← padInt dim.height 2
  let y ← previewPlane stride scanline dim.width dim.height
  let cStride ← padInt (stride / 2) 16
  let c ← previewPlane cStride (scanline / 2) (dim.width / 2) (dim.height / 2)
  pagedLayout [y, c, c] 0

def previewNv16 (dim : Dimension) : Option Layout := do
  let stride ← padInt dim.width 16
  let y ← previewPlane stride dim.height dim.width dim.height
  pagedLayout [y, y] 0

def venusLayout (v : VenusMacros) (dim : Dimension) : Option Layout := do
  let stride ← int (v.yStride dim.width)
  let scanline ← int (v.yScanlines dim.height)
  let frameLen ← uint (v.bufferSize dim.width dim.height)
  let len ← int (stride * scanline)
  let uvStride ← int (v.uvStride dim.width)
  let uvScanline ← int (v.uvScanlines dim.height)
  some ⟨[⟨len, 0, 0, 0, stride, scanline, dim.width, dim.height⟩,
    ⟨frameLen - len, 0, 0, 0, uvStride, uvScanline, dim.width, dim.height⟩], frameLen⟩

/-- The layout in place of the old one, or the error of a format that is not supported. -/
def answer (buf : BufPlanes) : Option (Option Layout) → Option (Int × BufPlanes)
  | some (some l) => some (0, l.writeTo buf)
  | some none => none
  | none => some (-1, buf)

/-- `mm_stream_calc_offset_preview`, before its results are stored -/
def previewLayout (build : Build) (info : StreamInfo) (dim : Dimension) (padding : PaddingInfo) :
    Option (Option Layout) :=
  match info.fmt with
  | .yuv420Nv12 | .yuv420Nv21 => some (previewNv12 info dim padding)
  | .yuv420Nv21Adreno => some (previewNv21Adreno dim)
  | .yuv420Yv12 => some (previewYv12 dim)
  | .yuv422Nv16 | .yuv422Nv61 => some (previewNv16 dim)
  | .yuv420Nv12Venus => build.venus.map fun v => venusLayout v dim
  | _ => none

def calcOffsetPreview (build : Build) (info : StreamInfo) (dim : Dimension) (padding : PaddingInfo)
    (buf : BufPlanes) : Option (Int × BufPlanes) :=
  answer buf (previewLayout build info dim padding)

def snapshotBase (build : Build) (dim : Dimension) (padding : PaddingInfo) : Option (Nat × Nat × Nat) :=
  if build.aFamily then do
    let scanline ← padInt dim.height 16
    let offsetY := scanline - dim.height
    -- double padding
    let doubled ← int (scanline + offsetY)
    some (dim.width, doubled, offsetY)
  else do
    let stride ← padInt dim.width padding.widthPadding
    let scanline ← padInt dim.height padding.heightPadding
    some (stride, scanline, 0)

def snapshotPlane (planePadding stride scanline offsetY width height : Nat) : Option PlaneInfo := do
  let bytes ← int (stride * scanline)
  let len ← padUint bytes planePadding
  let start ← int (0 + stride * offsetY)
  let offset ← padUint start planePadding
  some ⟨len, offset, 0, offsetY, stride, scanline, width, height⟩

def snapshotNv12 (build : Build) (info : StreamInfo) (dim : Dimension) (padding : PaddingInfo) :
    Option Layout := do
  let (stride, scanline, offsetY) ← snapshotBase build dim padding
  let y ← snapshotPlane padding.planePadding stride scanline offsetY dim.width dim.height
  let uv ← snapshotPlane padding.planePadding stride (scanline / 2) offsetY dim.width (dim.height / 2)
  let l ← pagedLayout [y, uv] 0
  if info.truePortrait then pagedLayout [y, uv] info.metaMaxSize else some l

def snapshotYv12 (build : Build) (dim : Dimension) (padding : PaddingInfo) : Option Layout := do
  let (stride, scanline, offsetY) ← snapshotBase build dim padding
  let y ← snapshotPlane padding.planePadding stride scanline offsetY dim.width dim.height
  let cStride ← padInt (stride / 2) 16
  let c ← snapshotPlane padding.planePadding cStride (scanline / 2) offsetY (dim.width / 2) (dim.height / 2)
  pagedLayout [y, c, c] 0

def snapshotNv16 (build : Build) (dim : Dimension) (padding : PaddingInfo) : Option Layout := do
  let (stride, scanline, offsetY) ← snapshotBase build dim padding
  let y ← snapshotPlane padding.planePadding stride scanline offsetY dim.width dim.height
  pagedLayout [y, y] 0

/-- `mm_stream_calc_offset_snapshot`, before its results are stored -/
def snapshotLayout (build : Build) (info : StreamInfo) (dim : Dimension) (padding : PaddingInfo) :
    Option (Option Layout) :=
  match info.fmt with
  | .yuv420Nv12 | .yuv420Nv21 => some (snapshotNv12 build info dim padding)
  | .yuv420Yv12 => some (snapshotYv12 build dim padding)
  | .yuv422Nv16 | .yuv422Nv61 => some (snapshotNv16 build dim padding)
  | _ => none

def calcOffsetSnapshot (build : Build) (info : StreamInfo) (dim : Dimension) (padding : PaddingInfo)
    (buf : BufPlanes) : Option (Int × BufPlanes) :=
  answer buf (snapshotLayout build info dim padding)

/-- The one plane of a raw frame; `bytes` is what its rows occupy. -/
def rawPlane (stride bytes : Nat) (dim : Dimension) (padding : PaddingInfo) : Option Layout := do
  let len ← padUint bytes padding.planePadding
  let width ← int len
  pagedLayout [⟨len, 0, 0, 0, stride, dim.height, width, 1⟩] 0

/-- Every 16 pixels occupy 16 bytes, says the source, but it takes two bytes a pixel. -/
def rawYuv (dim : Dimension) (padding : PaddingInfo) : Option Layout := do
  let stride ← padInt dim.width 16
  let bytes ← int (stride * dim.height * 2)
  rawPlane stride bytes dim padding

def raw8Bpp (dim : Dimension) (padding : PaddingInfo) : Option Layout := do
  let stride ← padInt dim.width 16
  let bytes ← int (stride * dim.height)
  rawPlane stride bytes dim padding

def rawQcom10Bpp (dim : Dimension) (padding : PaddingInfo) : Option Layout := do
  let rounded ← int (dim.width + 11)
  let stride := rounded / 12 * 12
  let bits ← int (stride * dim.height * 8)
  rawPlane stride (bits / 6) dim padding

def rawQcom12Bpp (dim : Dimension) (padding : PaddingInfo) : Option Layout := do
  let rounded ← int (dim.width + 9)
  let stride := rounded / 10 * 10
  let bits ← int (stride * dim.height * 8)
  rawPlane stride (bits / 5) dim padding

def rawMipi10Bpp (dim : Dimension) (padding : PaddingInfo) : Option Layout := do
  let fives ← int (dim.width * 5)
  let stride ← padInt (fives / 4) 8
  let bytes ← int (stride * dim.height)
  rawPlane stride bytes dim padding

def rawMipi12Bpp (dim : Dimension) (padding : PaddingInfo) : Option Layout := do
  let stride ← padInt dim.width 32
  let threes ← int (stride * dim.height * 3)
  rawPlane stride (threes / 2) dim padding

def rawPlain16 (dim : Dimension) (padding : PaddingInfo) : Option Layout := do
  let stride ← padInt dim.width 8
  let bytes ← int (stride * dim.height * 2)
  rawPlane stride bytes dim padding

def bayerLayout (packing : BayerPacking) (dim : Dimension) (padding : PaddingInfo) : Option (Option Layout) :=
  match packing with
  | .qcomRaw8Bpp | .mipiRaw8Bpp | .idealRawQcom8Bpp | .idealRawMipi8Bpp | .idealRawPlain8 =>
    some (raw8Bpp dim padding)
  | .qcomRaw10Bpp | .idealRawQcom10Bpp => some (rawQcom10Bpp dim padding)
  | .qcomRaw12Bpp | .idealRawQcom12Bpp => some (rawQcom12Bpp dim padding)
  | .mipiRaw10Bpp | .idealRawMipi10Bpp => some (rawMipi10Bpp dim padding)
  | .mipiRaw12Bpp | .idealRawMipi12Bpp => some (rawMipi12Bpp dim padding)
  | .idealRawPlain16At8Bpp | .idealRawPlain16At10Bpp | .idealRawPlain16At12Bpp => some (rawPlain16 dim padding)
  | .qcomRaw14Bpp | .mipiRaw14Bpp | .idealRawQcom14Bpp | .idealRawMipi14Bpp | .idealRawPlain16At14Bpp => none

/-- `mm_stream_calc_offset_raw`, before its results are stored -/
def rawLayout (fmt : CamFormat) (dim : Dimension) (padding : PaddingInfo) : Option (Option Layout) :=
  match fmt with
  | .yuvRaw8BitYuyv | .yuvRaw8BitYvyu | .yuvRaw8BitUyvy | .yuvRaw8BitVyuy | .jpegRaw8Bit | .metaRaw8Bit =>
    some (rawYuv dim padding)
  | .bayer packing _ => bayerLayout packing dim padding
  | _ => none

def calcOffsetRaw (fmt : CamFormat) (dim : Dimension) (padding : PaddingInfo) (buf : BufPlanes) :
    Option (Int × BufPlanes) :=
  answer buf (rawLayout fmt dim padding)

/-- Without the video core the width and height of the second plane are written to the first one; `old` is what
the second had before. -/
def videoLayout (dim : Dimension) (old : PlaneInfo) : Option Layout := do
  let bytes ← int (dim.width * dim.height)
  let len ← padUint bytes 2048
  let uvBytes ← int (dim.width * (dim.height / 2))
  let uvLen ← padUint uvBytes 2048
  pagedLayout [⟨len, 0, 0, 0, dim.width, dim.height, dim.width, dim.height / 2⟩,
    ⟨uvLen, 0, 0, 0, dim.width, dim.height / 2, old.width, old.height⟩] 0

def calcOffsetVideo (build : Build) (dim : Dimension) (buf : BufPlanes) : Option (Int × BufPlanes) :=
  match build.venus with
  | some v => answer buf (some (venusLayout v dim))
  | none => answer buf (some (videoLayout dim (buf.mp 1)))

inductive Calculator
  | preview | snapshot | video | raw
  deriving DecidableEq

/-- The calculator of one of the four kinds of streams, as `mm_stream_calc_offset` calls it. -/
def calcOffset (build : Build) (c : Calculator) (info : StreamInfo) (dim : Dimension) (padding : PaddingInfo)
    (buf : BufPlanes) : Option (Int × BufPlanes) :=
  match c with
  | .preview => calcOffsetPreview build info dim padding buf
  | .snapshot => calcOffsetSnapshot build info dim padding buf
  | .video => calcOffsetVideo build dim buf
  | .raw => calcOffsetRaw info.fmt dim padding buf

end Wt88047.PlaneLayout
