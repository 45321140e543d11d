import CloudConf.Provider
import CloudConf.Text.Entries

/-! # Reading the configuration back -/
namespace CloudConf.Provider

/-- The lines of a configuration; what follows the last line break is no line. -/
def linesOf (config : String) : List (List Char) := (Text.splitAt '\n' config.toList).dropLast

def entries (config : String) : List Text.SectionEntry := Text.entriesIn none (linesOf config)

def sections (config : String) : List (List Char) := Text.sectionNames (linesOf config)

end CloudConf.Provider
