import RipgrepAll.Json.Value
import RipgrepAll.Json.Merge
import RipgrepAll.Json.MergeLaws
import RipgrepAll.Config.Scalar
import RipgrepAll.Config.Serde
import RipgrepAll.Config.Schema
import RipgrepAll.Config.Laws
import RipgrepAll.Config.Resolve
import RipgrepAll.Config.Layers
import RipgrepAll.Config.Runs
import RipgrepAll.Config.SplitArgs
import RipgrepAll.Fzf.Shell
import RipgrepAll.Fzf.Main
import RipgrepAll.Fzf.Open
