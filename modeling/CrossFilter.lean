import CrossFilter.Backend.Script
import CrossFilter.Main
import CrossFilter.Proofs.Bodies
import CrossFilter.Proofs.ChartOutcomes
import CrossFilter.Proofs.Freshness
import CrossFilter.Proofs.Independence
import CrossFilter.Proofs.PivotGrids
import CrossFilter.Proofs.Replies
import CrossFilter.Proofs.Requeries
import CrossFilter.Proofs.States
import CrossFilter.Proofs.Superseding
import CrossFilter.Proofs.RepeatedFilters
import CrossFilter.Proofs.Refusals
import CrossFilter.Proofs.CommandQueries
import CrossFilter.Proofs.ElementClicks
import CrossFilter.Proofs.AbsentFields
import CrossFilter.Proofs.ScalarTexts
import CrossFilter.Proofs.Outliers
import CrossFilter.Proofs.PivotChecks
import CrossFilter.Proofs.AxisNames
import CrossFilter.Proofs.Answers
import CrossFilter.Proofs.ChartChecks
import CrossFilter.Proofs.Reloads
import CrossFilter.Proofs.ColumnNames
import CrossFilter.Proofs.Refreshes
import CrossFilter.Proofs.ColorTexts
import CrossFilter.Proofs.Endpoints
import CrossFilter.Proofs.SavedTabs
import CrossFilter.Proofs.PlotContents
import CrossFilter.Proofs.TypeTags
import CrossFilter.Proofs.RepeatedColumns
