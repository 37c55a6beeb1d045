import Reencode.Files.Path
import Reencode.Naming.Stem

/-!
# Names of importable images

Whether a file may be imported is decided by its last extension, in any case.
-/
namespace Reencode

/-- Extensions of picture files. -/
def pictureExtensions : List String := [
  ".apng", ".avif", ".avifs", ".blp", ".bmp", ".bufr", ".bw", ".cur", ".dcx", ".dds", ".dib",
  ".emf", ".eps", ".fit", ".fits", ".flc", ".fli", ".ftc", ".ftu", ".gbr", ".gif", ".grib", ".h5",
  ".hdf", ".icb", ".icns", ".ico", ".iim", ".im", ".j2c", ".j2k", ".jfif", ".jp2", ".jpc", ".jpe",
  ".jpeg", ".jpf", ".jpg", ".jpx", ".mpeg", ".mpg", ".msp", ".pbm", ".pcd", ".pcx", ".pfm", ".pgm",
  ".png", ".pnm", ".ppm", ".ps", ".psd", ".pxr", ".qoi", ".ras", ".rgb", ".rgba", ".sgi", ".tga",
  ".tif", ".tiff", ".vda", ".vst", ".webp", ".wmf", ".xbm", ".xpm"]

/-- Whether a name has the extension of a picture. -/
def isImageName (name : String) : Bool :=
  decide (Text.lower (lastExtension name) ∈ pictureExtensions)

/-- Whether the last name of a path has the extension of a picture. -/
def FilePath.isImage (p : FilePath) : Bool := isImageName p.name

end Reencode
